import SourcePrologue.Proofs.Convention.Reading
import SourcePrologue.Source.Scanner

/-!
# Lines that are handed back

The scanner hands lines back that are not part of a prologue. Outside all prologues these are lines
that no convention takes for a start line. Inside a legacy prologue a line without its marker is
handed back whatever it is, because start lines are looked for outside prologues only.

* **`Reader.line_iff`** — the lines that a reader hands back;
* **`Legacy.open?_of_declaration`** — the heading that introduces declarations is no start line;
* **`Scanner.start_line_iff`** — the start lines that a scanner in any state hands back;
* **`Scanner.handed_back_after`** — the lines handed back in a run, and what a start line does behind
  a prologue.
-/

namespace SourcePrologue

/-! ### Start lines -/

namespace Reader

/-- A start line begins with a plus sign behind one glyph, or with a stroke. -/
theorem trim_of_open? {line : Text} {r : Reader} (h : open? line = some r) :
    (∃ g rest, line.trim = g :: .char '+' :: rest) ∨ ∃ rest, line.trim = .char '/' :: rest := by
  obtain ⟨style, hstyle⟩ := exists_openAs? h
  cases style with
  | modern =>
    obtain ⟨opening, hopening, -⟩ := Option.map_eq_some_iff.1 hstyle
    rw [Modern.opening?] at hopening
    split at hopening
    · next g htrim => exact Or.inl ⟨g, [], htrim⟩
    · next g htrim => exact Or.inr ⟨[g, .char '+'], htrim⟩
    · simp at hopening
  | legacy =>
    obtain ⟨o, ho, -⟩ := Option.map_eq_some_iff.1 hstyle
    obtain ⟨g, rest, htrim, -, -⟩ := Legacy.opening?_eq_some ho
    exact Or.inl ⟨g, rest, htrim⟩

theorem open?_of_space (m : Marker) (rest : Text) :
    open? (m.glyph :: .char ' ' :: rest) = none := by
  have hfirst : m.glyph ≠ .char '/' := by cases m <;> decide
  have hprefix : Text.trim (m.glyph :: .char ' ' :: rest) <+: m.glyph :: .char ' ' :: rest := by
    rw [Text.trim, Text.trimStart_cons m.isBlank_glyph]
    exact Text.dropEnd_prefix_self _ _
  by_contra hopen
  obtain ⟨r, hr⟩ := Option.ne_none_iff_exists'.1 hopen
  rcases trim_of_open? hr with ⟨g, tail, htrim⟩ | ⟨tail, htrim⟩
  · rw [htrim, List.cons_prefix_cons, List.cons_prefix_cons] at hprefix
    exact absurd hprefix.2.1 (by decide)
  · rw [htrim, List.cons_prefix_cons] at hprefix
    exact hfirst hprefix.1.symm

end Reader

/-! ### Lines inside a legacy prologue -/

namespace Legacy

variable {m : Marker} {line : Text}

theorem classify_of_head (h : line.head? ≠ some m.glyph) : classify m line = .code := by
  cases line with
  | nil => rfl
  | cons g rest =>
    have hg : g ≠ m.glyph := fun heq => h (by rw [heq]; rfl)
    rw [classify, if_neg hg]

theorem classifyMarked_ne_code (t : Text) : classifyMarked t ≠ .code := by
  rw [classifyMarked]
  split
  · simp
  · split
    · simp
    · split
      · split <;> simp
      · simp

theorem classify_eq_code_iff : classify m line = .code ↔ line.head? ≠ some m.glyph := by
  constructor
  · intro h hhead
    obtain ⟨rest, rfl⟩ := List.head?_eq_some_iff.1 hhead
    rw [classify, if_pos rfl] at h
    exact classifyMarked_ne_code rest h
  · exact classify_of_head

/-- The heading that introduces declarations stands behind its marker and a space. -/
theorem eq_of_declaration (h : classify m line = .declaration) :
    ∃ rest, line = m.glyph :: .char ' ' :: rest := by
  have hhead : line.head? = some m.glyph := by
    by_contra hhead
    rw [classify_of_head hhead] at h
    exact Line.noConfusion h
  obtain ⟨t, rfl⟩ := List.head?_eq_some_iff.1 hhead
  rw [classify, if_pos rfl, classifyMarked] at h
  split at h
  · exact Line.noConfusion h
  · split at h
    · exact Line.noConfusion h
    · split at h
      · next name trailing hheading =>
        obtain ⟨raw, tail, hsplit, -, -⟩ := heading?_eq_some hheading
        have hmargin := (Heading.split?_eq_some hsplit).1
        cases t with
        | nil => simp at hmargin
        | cons g rest =>
          by_cases hg : g = .char ' '
          · exact ⟨rest, by rw [hg]⟩
          · simp [hg] at hmargin
      · exact Line.noConfusion h

theorem open?_of_declaration (h : classify m line = .declaration) : Reader.open? line = none := by
  obtain ⟨rest, hline⟩ := eq_of_declaration h
  rw [hline]
  exact Reader.open?_of_space m rest

end Legacy

/-! ### Lines that readers hand back -/

namespace Reader

/-- **What a reader hands back** is the line itself, and only legacy readers do so: with lines that
do not begin with the marker, and with the heading that introduces declarations. -/
theorem line_iff {r : Reader} {line t : Text} : (r.push line).2.line = some t ↔
    t = line ∧ ∃ m seen d, r = .legacy m seen d ∧
      (line.head? ≠ some m.glyph ∨ Legacy.classify m line = .declaration) := by
  cases r with
  | modern m d =>
    constructor
    · intro h
      exact absurd h (by simp [push])
    · intro h
      obtain ⟨-, m, seen, d, hr, -⟩ := h
      exact Reader.noConfusion hr
  | legacy m seen d =>
    have hline : (push (.legacy m seen d) line).2.line =
        if (Legacy.classify m line).isPassed then some line else none := by
      rw [push]
      split <;> rfl
    have hpassed : (Legacy.classify m line).isPassed = true ↔
        line.head? ≠ some m.glyph ∨ Legacy.classify m line = .declaration := by
      rw [← Legacy.classify_eq_code_iff]
      cases Legacy.classify m line <;> simp [Legacy.Line.isPassed]
    rw [hline]
    constructor
    · intro h
      split at h
      · next hkind => exact ⟨(Option.some.inj h).symm, m, seen, d, rfl, hpassed.1 hkind⟩
      · simp at h
    · intro h
      obtain ⟨ht, m', seen', d', hr, hkind⟩ := h
      cases hr
      rw [if_pos (hpassed.2 hkind), ht]

end Reader

/-! ### Lines that the scanner hands back -/

namespace Scanner

/-- The scanner after lines. -/
def after (s : Scanner) (ls : List Text) : Scanner := ls.foldl (fun s line => (s.push line).1) s

theorem push_of_outside {s : Scanner} (h : s.reader = none) (line : Text) :
    s.push line = match Reader.open? line.chomp with
      | some r => (⟨some r⟩, {})
      | none => (s, { line := some line.chomp }) := by
  cases hopen : Reader.open? line.chomp with
  | none => simp only [push, h, hopen]
  | some r => simp only [push, h, hopen]

theorem push_of_inside {s : Scanner} {r : Reader} (h : s.reader = some r) (line : Text) :
    s.push line =
      (⟨if (r.push line.chomp).2.prologue.isSome then none else some (r.push line.chomp).1⟩,
        (r.push line.chomp).2) := by
  rw [push]
  simp only [h]

theorem line_of_push {s : Scanner} {line t : Text} (h : (s.push line).2.line = some t) :
    t = line.chomp := by
  cases hreader : s.reader with
  | none =>
    rw [push_of_outside hreader] at h
    split at h
    · simp at h
    · exact (Option.some.inj h).symm
  | some r =>
    rw [push_of_inside hreader] at h
    exact (Reader.line_iff.1 h).1

/-- The start lines that a scanner hands back are those inside a legacy prologue that do not begin
with its marker. -/
theorem start_line_iff (s : Scanner) (line : Text) :
    (∃ t, (s.push line).2.line = some t ∧ (Reader.open? t).isSome = true) ↔
      (Reader.open? line.chomp).isSome = true ∧ ∃ m seen d, s.reader = some (.legacy m seen d) ∧
        line.chomp.head? ≠ some m.glyph := by
  constructor
  · intro h
    obtain ⟨t, ht, hstart⟩ := h
    rw [line_of_push ht] at hstart
    refine ⟨hstart, ?_⟩
    cases hreader : s.reader with
    | none =>
      rw [push_of_outside hreader] at ht
      split at ht
      · simp at ht
      · next hnone =>
        rw [hnone] at hstart
        exact Bool.noConfusion hstart
    | some r =>
      rw [push_of_inside hreader] at ht
      obtain ⟨-, m, seen, d, hr, hkind⟩ := Reader.line_iff.1 ht
      refine ⟨m, seen, d, by rw [hr], ?_⟩
      rcases hkind with hhead | hdeclaration
      · exact hhead
      · rw [Legacy.open?_of_declaration hdeclaration] at hstart
        exact Bool.noConfusion hstart
  · intro h
    obtain ⟨hstart, m, seen, d, hreader, hhead⟩ := h
    refine ⟨line.chomp, ?_, hstart⟩
    rw [push_of_inside hreader]
    exact Reader.line_iff.2 ⟨rfl, m, seen, d, rfl, Or.inl hhead⟩

theorem outside_of_prologue {s : Scanner} {line : Text} {p : Prologue}
    (h : (s.push line).2.prologue = some p) : (s.push line).1.reader = none := by
  cases hreader : s.reader with
  | none =>
    rw [push_of_outside hreader] at h
    split at h <;> simp at h
  | some r =>
    rw [push_of_inside hreader] at h ⊢
    simp only at h
    simp [h]

/-- **The lines that are handed back.** Whatever lines a scanner has been given, what it hands back
next is the next line without its line end, and this is a start line only inside a legacy prologue
with whose marker it does not begin; such a line is always handed back. When a line has completed a
prologue and a start line comes behind it, the scanner is in the prologue that this one opens. -/
theorem handed_back_after (ls : List Text) (line : Text) :
    (∀ t, ((after {} ls).push line).2.line = some t → t = line.chomp) ∧
    ((∃ t, ((after {} ls).push line).2.line = some t ∧ (Reader.open? t).isSome = true) ↔
      (Reader.open? line.chomp).isSome = true ∧
        ∃ m seen d, (after {} ls).reader = some (.legacy m seen d) ∧
          line.chomp.head? ≠ some m.glyph) ∧
    ∀ p next r, ((after {} ls).push line).2.prologue = some p → Reader.open? next.chomp = some r →
      (after {} (ls ++ [line])).push next = (⟨some r⟩, {}) := by
  refine ⟨fun t ht => line_of_push ht, start_line_iff _ line, ?_⟩
  intro p next r hp hr
  have hafter : after {} (ls ++ [line]) = ((after {} ls).push line).1 := by
    rw [after, List.foldl_append]
    rfl
  rw [hafter, push_of_outside (outside_of_prologue hp), hr]

/-- A start line of the other marker ends a legacy prologue, and then it is handed back as source
and opens nothing. -/
theorem start_handed_back :
    (Reader.open? "#+").isSome = true ∧
    ((after {} ["*+  FOO - Does foo", "*  Notes:", "*     n"]).push "#+").2.line = some "#+" ∧
    ((after {} ["*+  FOO - Does foo", "*  Notes:", "*     n"]).push "#+").2.prologue.isSome = true ∧
    (after {} ["*+  FOO - Does foo", "*  Notes:", "*     n", "#+"]).inPrologue = false := by
  decide +kernel

end Scanner

end SourcePrologue

import SourcePrologue.Proofs.Convention.Passages
import SourcePrologue.Proofs.Source.Documentation

/-!
# What becomes of legacy documentation

The scanner from the start line of a legacy prologue to its end, which may be an end marker, a line
of code, a heading that introduces declarations, or the end of the lines:

* **`Legacy.goesOn`** — the kinds of lines that do not end a prologue;
* **`Scanner.after_legacy_start`** — the scanner behind such lines;
* **`Scanner.sections_of_legacy`** — every section holds its passages, whatever ends the prologue.
-/

namespace SourcePrologue

open Legacy

namespace Legacy

/-- The kinds of lines in a prologue with a given marker. -/
def kinds (m : Marker) (ls : List Text) : List Line := ls.map fun line => classify m line.chomp

/-- Whether a prologue goes on over lines, behind a heading or not. -/
def goesOn (seenHeading : Bool) : List Line → Bool
  | [] => true
  | kind :: kinds => !kind.isEnd seenHeading && goesOn (seenHeading || kind.isHeading) kinds

theorem open?_of_opening? {start : Text} {o : Opening} (h : opening? start = some o) :
    Reader.open? start = some (.legacy o.marker false (openDraft o)) := by
  have hmodern : Reader.openAs? .modern start = none := by
    obtain ⟨g, rest, htrim, hg, htitle⟩ := opening?_eq_some h
    have hrest : rest ≠ [] := by
      rintro rfl
      simp [titleOf?, afterBlank?] at htitle
    have hopening : Modern.opening? start = none := by
      rw [Modern.opening?, htrim, hg]
      split
      · next heq => simp_all
      · next heq =>
        cases hm : o.marker <;> simp_all [Marker.glyph]
      · rfl
    rw [Reader.openAs?, hopening]
    rfl
  have hlegacy : Reader.openAs? .legacy start =
      some (.legacy o.marker false (openDraft o)) := by
    rw [Reader.openAs?, h]
    rfl
  rw [Reader.open?, Style.all, List.findSome?_cons, hmodern, List.findSome?_cons, hlegacy]

theorem push_of_open {m : Marker} {seen : Bool} {d : Draft} {line : Text}
    (h : (classify m line).isEnd seen = false) :
    ((Reader.legacy m seen d).push line).1 = .legacy m (seen || (classify m line).isHeading)
      (step d (classify m line)) ∧ ((Reader.legacy m seen d).push line).2 =
        { line := if (classify m line).isPassed then some line else none } := by
  rw [Reader.push]
  simp only [h]
  exact ⟨by cases classify m line <;> rfl, rfl⟩

/-- The lines that end a prologue. -/
theorem isEnd_iff {m : Marker} {seen : Bool} {line : Text} :
    (classify m line).isEnd seen = true ↔ classify m line = .closing ∨
      classify m line = .declaration ∨ line.head? ≠ some m.glyph ∧ seen = true := by
  rw [← classify_eq_code_iff]
  cases classify m line <;> simp [Line.isEnd]

theorem push_of_end {m : Marker} {seen : Bool} {d : Draft} {line : Text}
    (h : (classify m line).isEnd seen = true) :
    ((Reader.legacy m seen d).push line).2 =
      { line := if (classify m line).isPassed then some line else none,
        prologue := some d.settle.prologue } := by
  rw [Reader.push]
  simp only [h, if_true]

end Legacy

namespace Scanner

theorem after_legacy {m : Marker} {ls : List Text} {seen : Bool}
    (hopen : goesOn seen (kinds m ls) = true) (d : Draft) :
    after ⟨some (.legacy m seen d)⟩ ls =
      ⟨some (.legacy m (seen || (kinds m ls).any Line.isHeading) ((kinds m ls).foldl step d))⟩ := by
  induction ls generalizing seen d with
  | nil =>
    rw [show (kinds m []).any Line.isHeading = false from rfl, Bool.or_false]
    rfl
  | cons line ls ih =>
    have hcons : kinds m (line :: ls) = classify m line.chomp :: kinds m ls := rfl
    rw [hcons, goesOn, Bool.and_eq_true, Bool.not_eq_true'] at hopen
    obtain ⟨hreader, hemission⟩ := push_of_open (d := d) hopen.1
    have hpush : (push ⟨some (.legacy m seen d)⟩ line).1 =
        ⟨some (.legacy m (seen || (classify m line.chomp).isHeading)
          (step d (classify m line.chomp)))⟩ := by
      rw [push_of_inside rfl, hemission, hreader]
      rfl
    rw [hcons, List.any_cons, ← Bool.or_assoc, List.foldl_cons, ← ih hopen.2, ← hpush]
    rfl

/-- Outside of all prologues a start line opens a legacy prologue. -/
theorem push_legacy_start {s : Scanner} (houtside : s.reader = none) {start : Text} {o : Opening}
    (hstart : opening? start.chomp = some o) :
    s.push start = (⟨some (.legacy o.marker false (openDraft o))⟩, {}) := by
  rw [push_of_outside houtside, open?_of_opening? hstart]

/-- The scanner behind a start line and lines that do not end the prologue. -/
theorem after_legacy_start {before ls : List Text} {start : Text} {o : Opening}
    (houtside : (after {} before).inPrologue = false) (hstart : opening? start.chomp = some o)
    (hopen : goesOn false (kinds o.marker ls) = true) :
    after {} (before ++ start :: ls) =
      ⟨some (.legacy o.marker ((kinds o.marker ls).any Line.isHeading)
        ((kinds o.marker ls).foldl step (openDraft o)))⟩ := by
  have hreader : (after {} before).reader = none := by
    simpa [inPrologue] using houtside
  have hfirst : ((after {} before).push start).1 = ⟨some (.legacy o.marker false (openDraft o))⟩ := by
    rw [push_legacy_start hreader hstart]
  have hafter := after_legacy hopen (openDraft o)
  rw [Bool.false_or] at hafter
  rw [after_append, ← hafter, ← hfirst]
  rfl

/-- **The documentation in a legacy prologue.** Let a start line open a legacy prologue behind any
lines, and let the prologue go on over the lines after it. A further line is handed back, without
its line end, just in case it does not begin with the marker or is a heading that introduces
declarations; it ends the prologue just in case it is an end marker or such a heading or, below a
heading, does not begin with the marker. However the prologue ends, every section holds the passages
that were stored for it: the lines below its headings and the texts in them, in order, without blank
edges and without blank passages, an empty line between each two. The passages stored for a section
are those under headings of its name, if taking the canonical form changes no name of a heading, as
it is with ASCII names. -/
theorem sections_of_legacy (before ls : List Text) (start : Text) (o : Opening)
    (houtside : (after {} before).inPrologue = false)
    (hstart : opening? start.chomp = some o)
    (hopen : goesOn false (kinds o.marker ls) = true) :
    ∃ p, (after {} (before ++ start :: ls)).flush = some p ∧
      (∀ line,
        (∀ t, ((after {} (before ++ start :: ls)).push line).2.line = some t ↔ t = line.chomp ∧
          (line.chomp.head? ≠ some o.marker.glyph ∨
            classify o.marker line.chomp = .declaration)) ∧
        (((after {} (before ++ start :: ls)).push line).2.prologue.isSome = true ↔
          classify o.marker line.chomp = .closing ∨ classify o.marker line.chomp = .declaration ∨
            line.chomp.head? ≠ some o.marker.glyph ∧
              ∃ kind ∈ kinds o.marker ls, kind.isHeading = true) ∧
        ∀ q, ((after {} (before ++ start :: ls)).push line).2.prologue = some q →
          q.sections = p.sections) ∧
      (∀ key, p.sections.find key = o.documentation storedName (kinds o.marker ls) key) ∧
      ((∀ name trailing, .heading name trailing ∈ kinds o.marker ls →
          SectionName.canonical name = name) →
        ∀ key, p.sections.find key = o.documentation id (kinds o.marker ls) key) ∧
      ((∀ line ∈ ls, ∀ name, headingName? o.marker line.chomp = some name → name.isAscii = true) →
        ∀ key, p.sections.find key = o.documentation id (kinds o.marker ls) key) := by
  have hafter := after_legacy_start houtside hstart hopen
  have hsections : ∀ key, ((kinds o.marker ls).foldl step
      (openDraft o)).settle.prologue.sections.find key =
        o.documentation storedName (kinds o.marker ls) key := by
    refine fun key => find_foldl hstart (fun kind hkind => ?_) key
    obtain ⟨line, -, rfl⟩ := List.mem_map.1 hkind
    exact chomp_classify (Text.chomp_chomp line)
  refine ⟨((kinds o.marker ls).foldl step (openDraft o)).settle.prologue, ?_, ?_, hsections, ?_, ?_⟩
  · rw [hafter]
    rfl
  · intro line
    rw [hafter, push_of_inside rfl]
    refine ⟨fun t => ?_, ?_, ?_⟩
    · rw [Reader.line_iff]
      constructor
      · rintro ⟨ht, m, seen, d, hr, hkind⟩
        cases hr
        exact ⟨ht, hkind⟩
      · rintro ⟨ht, hkind⟩
        exact ⟨ht, _, _, _, rfl, hkind⟩
    · rw [← List.any_eq_true, ← isEnd_iff]
      cases hend : (classify o.marker line.chomp).isEnd ((kinds o.marker ls).any Line.isHeading) with
      | true => simp [push_of_end hend]
      | false => simp [(push_of_open hend).2]
    · intro q hq
      cases hend : (classify o.marker line.chomp).isEnd ((kinds o.marker ls).any Line.isHeading) with
      | true =>
        rw [push_of_end hend] at hq
        rw [← Option.some.inj hq]
      | false =>
        rw [(push_of_open hend).2] at hq
        simp at hq
  · intro hnames key
    rw [hsections, documentation_of_canonical hnames]
  · intro hascii key
    rw [hsections]
    refine documentation_of_canonical (fun name trailing hheading => ?_) key
    obtain ⟨line, hline, hkind⟩ := List.mem_map.1 hheading
    exact canonical_of_heading (hascii line hline) hkind

/-- A section under both spellings of its name, code above the first heading, and a blank passage. -/
theorem sections_of_legacy_authors : ∃ p,
    (after {} ["      END", "*+  FOO - Does foo", "*  and more", "      INTEGER I", "*    Author :  Me",
      "*", "*    Notes :", "*", "*    Authors:", "*       You", "*     endhistory"]).flush = some p ∧
    p.sections.find "Purpose" = (["Does foo", "and more"] : List Text) ∧
    p.sections.find "Notes" = [] ∧
    p.sections.find "Authors" = (["Me", [], "  You"] : List Text) := by
  obtain ⟨p, hflush, -, -, -, hascii⟩ := sections_of_legacy ["      END"]
    ["*  and more", "      INTEGER I", "*    Author :  Me", "*", "*    Notes :", "*", "*    Authors:",
      "*       You", "*     endhistory"] "*+  FOO - Does foo" ⟨.star, "FOO", "Does foo"⟩
    (by decide +kernel) (by decide +kernel) (by decide +kernel)
  have hfind := hascii (by decide +kernel)
  refine ⟨p, hflush, ?_, ?_, ?_⟩
  · rw [hfind]
    decide +kernel
  · rw [hfind]
    decide +kernel
  · rw [hfind]
    decide +kernel

/-- A name whose canonical form is not canonical: the passage under it is stored elsewhere. -/
theorem passage_stored_elsewhere :
    let ls : List Text := ["*    A ŉ :", "*     one"]
    kinds .star ls = [.heading "A ʼN" [], .content "one"] ∧
    (Opening.documentation ⟨.star, "FOO", "Does foo"⟩ id (kinds .star ls) "A ʼN" =
      (["one"] : List Text)) ∧
    ((after {} ("*+  FOO - Does foo" :: ls)).flush.map fun p => p.sections.find "A ʼN") = some [] ∧
    ((after {} ("*+  FOO - Does foo" :: ls)).flush.map fun p => p.sections.find "A ʼn") =
      some (["one"] : List Text) := by
  decide +kernel

end Scanner

end SourcePrologue

import SourcePrologue.Proofs.Convention.Placed
import SourcePrologue.Proofs.Source.Scan
import SourcePrologue.Proofs.Source.Passed

/-!
# What becomes of documentation

The scanner from the start line of a modern prologue to its end marker, or to the end of the lines:

* **`Scanner.texts_of_modern`** — every section holds the texts that stand under its headings, in
  order and each once, and these are all texts behind the first heading just in case no text stands
  behind an empty line that has ended a section.
-/

namespace SourcePrologue

open Modern

namespace Modern

/-- The kinds of lines in a prologue with a given marker. -/
def kinds (m : Marker) (ls : List Text) : List Line := ls.map fun line => classify m line.chomp

theorem read_eq_foldl (m : Marker) (d : Draft) (ls : List Text) :
    read m d ls = (kinds m ls).foldl step d := by
  rw [kinds, List.foldl_map]
  rfl

/-- Reading keeps line ends out of drafts. -/
theorem sound_read {m : Marker} {ls : List Text}
    (hopen : ∀ line ∈ ls, (classify m line.chomp).isClosing = false) {d : Draft}
    (hd : d.Sound (fun _ => True) fun text => text.chomp = text) :
    (read m d ls).Sound (fun _ => True) fun text => text.chomp = text := by
  induction ls generalizing d with
  | nil => exact hd
  | cons line ls ih =>
    have hkind := chomp_classify (m := m) (Text.chomp_chomp line)
    rw [read_cons]
    exact ih (fun l hl => hopen l (List.mem_cons_of_mem line hl))
      (sound_step_of_open hd hkind (hopen line List.mem_cons_self))

/-- Lines that do not end a prologue put nothing into it yet. -/
theorem prologue_read {m : Marker} {ls : List Text}
    (hopen : ∀ line ∈ ls, (classify m line.chomp).isClosing = false) (d : Draft) :
    (read m d ls).prologue = d.prologue := by
  induction ls generalizing d with
  | nil => rfl
  | cons line ls ih =>
    rw [read_cons, ih (fun l hl => hopen l (List.mem_cons_of_mem line hl)),
      step_prologue_of_open d (hopen line List.mem_cons_self)]

/-- **The texts of a prologue that has been read** are those that stand under its headings. -/
theorem texts_read {m : Marker} {ls : List Text}
    (hopen : ∀ line ∈ ls, (classify m line.chomp).isClosing = false) (comment : Bool) (key : Text) :
    Body.texts ((read m (openDraft comment m) ls).settle.prologue.sections.find key) =
      textsAt (Place.isUnder key) (placed .above (kinds m ls)) := by
  have hempty : (read m (openDraft comment m) ls).prologue.sections.find key = [] := by
    rw [prologue_read hopen]
    rfl
  have hkinds : ∀ kind ∈ kinds m ls, kind.isClosing = false := by
    intro kind hkind
    obtain ⟨line, hline, rfl⟩ := List.mem_map.1 hkind
    exact hopen line hline
  have hplace : Agrees (openDraft comment m) .above := rfl
  have hread := texts_foldl (fun _ => rfl) hplace hkinds key
  rw [Draft.texts_settle (sound_read hopen (sound_openDraft comment m)), hempty, read_eq_foldl,
    hread]
  rfl

theorem open?_of_opening? {start : Text} {comment : Bool} {m : Marker}
    (h : opening? start = some (comment, m)) :
    Reader.open? start = some (.modern m (openDraft comment m)) := by
  have hmodern : Reader.openAs? .modern start = some (.modern m (openDraft comment m)) := by
    rw [Reader.openAs?, h]
    rfl
  rw [Reader.open?, Style.all, List.findSome?_cons, hmodern]

end Modern

namespace Scanner

theorem after_append (s : Scanner) (ks ls : List Text) :
    s.after (ks ++ ls) = (s.after ks).after ls :=
  List.foldl_append

theorem after_modern {m : Marker} {ls : List Text}
    (hopen : ∀ line ∈ ls, (classify m line.chomp).isClosing = false) (d : Draft) :
    after ⟨some (.modern m d)⟩ ls = ⟨some (.modern m (read m d ls))⟩ := by
  induction ls generalizing d with
  | nil => rfl
  | cons line ls ih =>
    have hpush : (push ⟨some (.modern m d)⟩ line).1 =
        ⟨some (.modern m (step d (classify m line.chomp)))⟩ := by
      rw [push_of_inside rfl]
      simp [Reader.push, hopen line List.mem_cons_self]
    rw [read_cons, ← ih fun l hl => hopen l (List.mem_cons_of_mem line hl), ← hpush]
    rfl

/-- The scanner behind a start line and lines that do not end the prologue. -/
theorem after_start {before ls : List Text} {start : Text} {comment : Bool} {m : Marker}
    (houtside : (after {} before).inPrologue = false)
    (hstart : Modern.opening? start.chomp = some (comment, m))
    (hopen : ∀ line ∈ ls, (classify m line.chomp).isClosing = false) :
    after {} (before ++ start :: ls) = ⟨some (.modern m (read m (openDraft comment m) ls))⟩ := by
  have hreader : (after {} before).reader = none := by
    simpa [inPrologue] using houtside
  have hfirst : ((after {} before).push start).1 = ⟨some (.modern m (openDraft comment m))⟩ := by
    rw [push_of_outside hreader, open?_of_opening? hstart]
  rw [after_append, ← after_modern hopen, ← hfirst]
  rfl

theorem push_closing {m : Marker} {d : Draft} {line : Text} {comment : Bool}
    (h : classify m line.chomp = .closing comment) :
    (push ⟨some (.modern m d)⟩ line).2.prologue = some (step d (.closing comment)).prologue := by
  rw [push_of_inside rfl]
  simp [Reader.push, h, Line.isClosing]

/-- **The documentation in a modern prologue.** Let a start line open a modern prologue behind any
lines, and let the lines after it be no end markers. The prologue is there when the lines end, and
an end marker gives the same sections. Whatever the lines are, the texts of a section are those that
stand under headings of its name, in order and each once. They are all the texts whose last heading
had that name just in case no text stands behind an empty line that has ended a section. -/
theorem texts_of_modern (before ls : List Text) (start : Text) (comment : Bool) (m : Marker)
    (houtside : (after {} before).inPrologue = false)
    (hstart : Modern.opening? start.chomp = some (comment, m))
    (hopen : ∀ line ∈ ls, (classify m line.chomp).isClosing = false) :
    ∃ p, (after {} (before ++ start :: ls)).flush = some p ∧
      (∀ last closes, classify m last.chomp = .closing closes →
        ∃ q, ((after {} (before ++ start :: ls)).push last).2.prologue = some q ∧
          q.sections = p.sections) ∧
      (∀ key, Body.texts (p.sections.find key) =
        textsAt (Place.isUnder key) (placed .above (kinds m ls))) ∧
      ((∀ key, Body.texts (p.sections.find key) =
          textsAt (Place.follows key) (placed .above (kinds m ls))) ↔
        ∀ t ∈ placed .above (kinds m ls), t.1.isBehind = false) := by
  have hafter := after_start houtside hstart hopen
  have htexts := texts_read hopen comment
  refine ⟨(read m (openDraft comment m) ls).settle.prologue, ?_, ?_, htexts, ?_⟩
  · rw [hafter]
    rfl
  · intro last closes hlast
    refine ⟨_, by rw [hafter]; exact push_closing hlast, ?_⟩
    exact Draft.sections_settle_congr rfl rfl rfl rfl
  · rw [← textsAt_isUnder_eq_iff]
    constructor
    · intro h key
      rw [← htexts key, h key]
    · intro h key
      rw [htexts key, h key]

/-- Behind the end of a section a text is lost, although a heading stands above it. -/
theorem text_lost_behind_section :
    ((after {} ["*+", "*  Description:", "*     one", "", "*     two"]).flush.map fun p =>
      p.sections.find "Description") = some (["one"] : List Text) ∧
    textsAt (Place.follows "Description") (placed .above
      (kinds .star ["*  Description:", "*     one", "", "*     two"])) =
      (["one", "two"] : List Text) := by
  decide +kernel

/-- Two sections, one of which stands under two headings. -/
theorem texts_of_modern_repeated : ∃ p,
    (after {} ["      CALL FOO", "*+", "*  Notes:", "*     one", "", "*  Bugs:", "* None.", "two",
      "*  Notes:", "*     three"]).flush = some p ∧
    Body.texts (p.sections.find "Notes") = (["one", "three"] : List Text) ∧
    Body.texts (p.sections.find "Bugs") = (["None.", "two"] : List Text) := by
  obtain ⟨p, hflush, -, htexts, -⟩ := texts_of_modern ["      CALL FOO"]
    ["*  Notes:", "*     one", "", "*  Bugs:", "* None.", "two", "*  Notes:", "*     three"] "*+"
    false .star (by decide +kernel) (by decide +kernel) (by decide +kernel)
  refine ⟨p, hflush, ?_, ?_⟩
  · rw [htexts]
    decide +kernel
  · rw [htexts]
    decide +kernel

end Scanner

end SourcePrologue

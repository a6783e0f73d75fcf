import SourcePrologue.Proofs.Source.Outlasting
import SourcePrologue.Proofs.Source.RoundTrip

/-!
# Modern files last

Whatever is written in the headings of a file, the lines of its sections are decoded and the
sections have no blank edges. So the modern prologues in it are lasting, and when such prologues are
written to a file, no other prologues are found in that file than were written.

* **`Reader.Filed`** — what holds of the readers that take the lines of files;
* **`Source.lasting_split`** — a file in which all prologues are modern has lasting parts;
* **`Source.exists_reopened`** — a prologue found in a file of lasting parts is one of those that
  were written, and it lacks nothing that this one had.
-/

namespace SourcePrologue

open Utf8 Body

/-! ### Lines of files -/

namespace Source

/-- A line that can be **read from a file**: without line ends, and decoded. -/
structure IsFileLine (line : Text) : Prop where
  isLine : line.IsLine
  decoded : IsDecoded line

theorem isFileLine_of_mem_read {bytes : List UInt8} {line : Text} (h : line ∈ read bytes) :
    IsFileLine line :=
  ⟨(read_spec h).1, (read_spec h).2⟩

theorem IsFileLine.of_suffix {s t : Text} (h : IsFileLine t) (hst : s <:+ t) : IsFileLine s :=
  ⟨h.isLine.of_subset hst.subset, h.decoded.of_suffix hst⟩

theorem regular_isFileLine : Regular (fun _ => True) IsFileLine :=
  ⟨fun _ _ => trivial, fun _ h => h.isLine.chomp, Text.isLine_nil, isDecoded_nil⟩

end Source

/-! ### Readers in files -/

namespace Reader

/-- What holds of a reader in a file: a modern one has the lines of the file and its marker in the
draft, and a legacy one is known as such. -/
def Filed : Reader → Prop
  | modern m d => d.Sound (fun _ => True) Source.IsFileLine ∧ d.prologue.commentChar = [m.glyph]
  | legacy _ _ d => d.prologue.style = some .legacy

variable {r : Reader} {line : Text}

theorem filed_of_open? (h : open? line = some r) : r.Filed := by
  obtain ⟨style, hstyle⟩ := exists_openAs? h
  cases style with
  | modern =>
    obtain ⟨⟨comment, m⟩, -, rfl⟩ := Option.map_eq_some_iff.1 hstyle
    exact ⟨Modern.sound_openDraft comment m, rfl⟩
  | legacy =>
    obtain ⟨o, -, rfl⟩ := Option.map_eq_some_iff.1 hstyle
    rfl

theorem filed_settle (h : r.Filed) : r.settle.Filed := by
  cases r with
  | modern m d =>
    refine ⟨h.1.settle Source.regular_isFileLine, ?_⟩
    rw [Draft.settle_prologue, Prologue.appendAll_eq]
    exact h.2
  | legacy m seen d => exact (style_settle (.legacy m seen d)).trans h

theorem filed_push (h : r.Filed) (hline : Source.IsFileLine line) : (r.push line).1.Filed := by
  cases r with
  | modern m d =>
    have hkind : (Modern.classify m line).Sound (fun _ => True) Source.IsFileLine :=
      Modern.sound_classify_of (fun _ _ _ => trivial) Source.regular_isFileLine.empty
        fun _ ht _ => hline.of_suffix ht
    exact ⟨Modern.sound_step Source.regular_isFileLine h.1 hkind,
      (Modern.step_prologue d _).1.trans h.2⟩
  | legacy m seen d =>
    have hstyle := style_push (.legacy m seen d) line
    rw [push] at hstyle ⊢
    by_cases hend : (Legacy.classify m line).isEnd seen = true
    · simp only [if_pos hend] at hstyle ⊢
      exact hstyle.trans h
    · simp only [if_neg hend] at hstyle ⊢
      exact hstyle.trans h

/-- **What is read from a file lasts** if it is modern. -/
theorem lasting_draft (h : r.Filed) (hmodern : r.draft.prologue.style = some .modern) :
    r.draft.prologue.Lasting := by
  cases r with
  | modern m d =>
    obtain ⟨hdraft, hmarker⟩ := h
    refine ⟨⟨m, hmarker⟩, fun key line hline => ?_, fun key hne => ?_⟩
    · have hentry := hdraft.sections _ (Sections.mem_entries_of_find (List.ne_nil_of_mem hline))
      exact (hentry.2.2 line hline).isLine
    · have hentry := hdraft.sections _ (Sections.mem_entries_of_find hne)
      exact shows_of_trimmed hentry.2.1 fun line hline => (hentry.2.2 line hline).decoded
  | legacy m seen d =>
    rw [show (legacy m seen d).draft.prologue.style = some .legacy from h] at hmodern
    exact absurd hmodern (by decide)

end Reader

/-! ### Parts of files -/

/-- A part that is found again: a line of a file that opens nothing, or a lasting prologue. -/
def Item.Lasting : Item → Prop
  | line text => Source.IsFileLine text ∧ Reader.open? text = none
  | prologue p => p.Lasting

namespace Source

open Prologue

theorem isFileLine_of_mem_splitFrom {ls : List Text} (hlines : ∀ line ∈ ls, IsFileLine line)
    {s : Scanner} {t : Text} (ht : .line t ∈ splitFrom s ls) : IsFileLine t := by
  induction ls generalizing s with
  | nil =>
    rw [splitFrom, Option.mem_toList, Option.map_eq_some_iff] at ht
    obtain ⟨p, -, hp⟩ := ht
    exact Item.noConfusion hp
  | cons line ls ih =>
    rw [splitFrom_cons] at ht
    rcases List.mem_append.1 ht with hitem | hitem
    · rcases mem_items_iff.1 hitem with ⟨p, -, hp⟩ | ⟨t', ht', hline⟩
      · exact Item.noConfusion hp
      · rw [Item.line.injEq] at hline
        have hfile := hlines line List.mem_cons_self
        rw [hline, Scanner.line_of_push ht', hfile.isLine.chomp]
        exact hfile
    · exact ih (fun l hl => hlines l (List.mem_cons_of_mem line hl)) hitem

theorem lasting_splitFrom {ls : List Text} (hlines : ∀ line ∈ ls, IsFileLine line) {s : Scanner}
    (hs : ∀ r, s.reader = some r → r.Filed) {p : Prologue} (hp : .prologue p ∈ splitFrom s ls)
    (hmodern : p.style = some .modern) : p.Lasting := by
  induction ls generalizing s with
  | nil =>
    rw [splitFrom, Option.mem_toList, Scanner.flush, Option.map_map, Option.map_eq_some_iff] at hp
    obtain ⟨r, hr, hresult⟩ := hp
    rw [← Item.prologue.inj hresult] at hmodern ⊢
    exact Reader.lasting_draft (Reader.filed_settle (hs r hr)) hmodern
  | cons line ls ih =>
    have hfile := hlines line List.mem_cons_self
    have hpush : ∀ r, s.reader = some r → (r.push line.chomp).1.Filed := fun r hr =>
      Reader.filed_push (hs r hr) (by rw [hfile.isLine.chomp]; exact hfile)
    rw [splitFrom_cons] at hp
    rcases List.mem_append.1 hp with hitem | hitem
    · rcases mem_items_iff.1 hitem with ⟨q, hq, hprologue⟩ | ⟨t, -, hline⟩
      · obtain ⟨r, hr, hread⟩ := Scanner.prologue_of_push hq
        rw [Item.prologue.inj hprologue, hread] at hmodern ⊢
        exact Reader.lasting_draft (hpush r hr) hmodern
      · exact Item.noConfusion hline
    · exact ih (fun l hl => hlines l (List.mem_cons_of_mem line hl))
        (Scanner.reader_push (fun r => Reader.filed_of_open?) hpush) hitem

/-- **A modern file has lasting parts.** -/
theorem lasting_split {bytes : List UInt8}
    (hmodern : ∀ p ∈ prologues (split (read bytes)), p.style = some .modern) :
    ∀ item ∈ split (read bytes), item.Lasting := by
  have hlines : ∀ line ∈ read bytes, IsFileLine line := fun line => isFileLine_of_mem_read
  have hstyle : ∀ p, .prologue p ∈ split (read bytes) → p.style = some .modern := fun p hp =>
    hmodern p (mem_prologues_iff.2 hp)
  intro item hitem
  cases item with
  | line t =>
    exact ⟨isFileLine_of_mem_splitFrom hlines hitem,
      open?_of_all_modern Scanner.styled_outside hstyle t hitem⟩
  | prologue p =>
    exact lasting_splitFrom hlines (fun r hr => absurd hr (by simp)) hitem (hstyle p hitem)

theorem isLine_writtenLines {item : Item} (h : item.Lasting) :
    ∀ line ∈ item.writtenLines, line.IsLine := by
  cases item with
  | line text =>
    intro line hline
    rw [List.mem_singleton.1 hline]
    exact h.1.isLine
  | prologue p => exact Prologue.Lasting.isLine_writtenLines h

/-- A line of a file that opens nothing is found as it was written. -/
theorem splitFrom_recode_line {text : Text} (hfile : IsFileLine text)
    (hopen : Reader.open? text = none) (ls : List Text) :
    splitFrom {} (recode text :: ls) = .line text :: splitFrom {} ls := by
  have hdecoded : recode text = text := hfile.decoded
  have hchomp := hfile.isLine.chomp
  rw [hdecoded, splitFrom_ordinary (by rw [hchomp, hopen]), hchomp]

/-- One prologue is found where a lasting one was written. -/
theorem prologues_splitFrom_recoded {p : Prologue} (hp : p.Lasting) (ls : List Text) :
    ∃ q, Reopens p q ∧ prologues (splitFrom {} (p.writtenLines.map recode ++ ls)) =
      q :: prologues (splitFrom {} ls) := by
  obtain ⟨q, hq, hsplit⟩ := splitFrom_recoded hp ls
  refine ⟨q, hq, ?_⟩
  rw [hsplit, prologues_append, prologues_append, prologues_comment, prologues_cons,
    prologues_comment]
  rfl

theorem exists_reopened_of_splitFrom {parts : List Item} (h : ∀ item ∈ parts, item.Lasting)
    {q : Prologue}
    (hq : q ∈ prologues (splitFrom {} ((parts.flatMap Item.writtenLines).map recode))) :
    ∃ p ∈ prologues parts, Reopens p q := by
  induction parts with
  | nil => exact absurd hq (by simp [splitFrom, Scanner.flush, prologues])
  | cons item parts ih =>
    have hrest := ih fun i hi => h i (List.mem_cons_of_mem item hi)
    rw [List.flatMap_cons, List.map_append] at hq
    cases item with
    | line text =>
      obtain ⟨hfile, hopen⟩ := h _ List.mem_cons_self
      rw [Item.writtenLines, List.map_singleton, List.singleton_append,
        splitFrom_recode_line hfile hopen] at hq
      exact hrest hq
    | prologue p =>
      obtain ⟨again, hagain, hprologues⟩ :=
        prologues_splitFrom_recoded (h (.prologue p) List.mem_cons_self)
          ((parts.flatMap Item.writtenLines).map recode)
      rw [Item.writtenLines, hprologues] at hq
      rcases List.mem_cons.1 hq with hq | hq
      · exact ⟨p, List.mem_cons_self, by rw [hq]; exact hagain⟩
      · obtain ⟨p', hp', hreopens⟩ := hrest hq
        exact ⟨p', List.mem_cons_of_mem p hp', hreopens⟩

/-- **What is found in a file of lasting parts** has been written there, and it lacks nothing that
it had before. -/
theorem exists_reopened {parts : List Item} (h : ∀ item ∈ parts, item.Lasting) {q : Prologue}
    (hq : q ∈ prologues (split (read (write (render parts))))) :
    ∃ p ∈ prologues parts, Reopens p q := by
  have hlines : ∀ line ∈ parts.flatMap Item.writtenLines, line.IsLine := by
    intro line hline
    obtain ⟨item, hitem, hline⟩ := List.mem_flatMap.1 hline
    exact isLine_writtenLines (h item hitem) line hline
  rw [render_eq, read_write_unlines hlines, split] at hq
  exact exists_reopened_of_splitFrom h hq

end Source

end SourcePrologue

import SourcePrologue.Proofs.Prologue.Outcome
import SourcePrologue.Prologue.Written

/-!
# Prologues that are read back

`Prologue.reread` is the prologue that holds what another one writes, and `Prologue.Legible` is what
reading it back takes of the prologue that is written.

* **`writtenLines_eq`** — a written prologue is its blocks between two markers, and the C comment
  around them;
* **`blocks_spec`** — the blocks of a legible prologue have labels for names and lines that are
  read back whole;
* **`find_reread`** — what is read back under a name is the outcome of that name.
-/

namespace SourcePrologue

namespace Prologue

open Standard Body

/-- A prologue that is written so that it can be **read back**: it has a marker, its sections are
stored under labels, its lines have no line ends, and no section holds blank lines only. -/
structure Legible (p : Prologue) : Prop where
  marked : ∃ m : Marker, p.commentChar = [m.glyph]
  labelled : p.Labelled
  lines : ∀ name, ∀ line ∈ p.sections.find name, Text.newline ∉ line ∧ line.chomp = line
  filled : ∀ name, p.sections.find name ≠ [] → trimBlankEdges (p.sections.find name) ≠ []

/-- What is read where a prologue has been written. -/
def reread (p : Prologue) : Prologue :=
  ({ style := some .modern, commentChar := p.commentChar } : Prologue).appendAll
    (p.blocks.map fun b => (b.1, b.2.map Text.orEmpty))

/-! ### What is written line by line -/

/-- The lines of a written prologue without those of the C comment around it. -/
def markedLines (p : Prologue) : List Text :=
  (p.commentChar ++ Text.ofChar '+') ::
    (p.blocks.flatMap fun b => p.writeSection b.1 b.2) ++ [p.commentChar ++ Text.ofChar '-']

theorem writtenLines_eq (p : Prologue) :
    p.writtenLines = (if p.opensComment then [Text.ofString "/*"] else []) ++ p.markedLines ++
      (if p.closesComment then [Text.ofString "*/"] else []) := by
  have hsections : ∀ names : List Text, (names.flatMap fun name =>
      (p.written? name).elim [] fun b => p.writeSection b.1 b.2) =
        (names.filterMap p.written?).flatMap fun b => p.writeSection b.1 b.2 := by
    intro names
    induction names with
    | nil => rfl
    | cons name names ih =>
      rw [List.flatMap_cons, ih]
      cases hb : p.written? name with
      | none => rw [List.filterMap_cons_none hb, Option.elim_none, List.nil_append]
      | some b => rw [List.filterMap_cons_some hb, Option.elim_some, List.flatMap_cons]
  have hassoc : ∀ (ks ls : List Text) (start stop : Text),
      ks ++ [start] ++ ls ++ [stop] = ks ++ (start :: ls ++ [stop]) := by simp
  rw [markedLines, blocks, ← hsections]
  refine congrArg (· ++ _) ((hassoc _ _ _ _).trans ?_)
  congr 4
  funext name
  cases p.written? name with
  | none => rfl
  | some b => rfl

theorem writeLine_orEmpty (p : Prologue) (name line : Text) :
    p.writeLine name line.orEmpty = p.writeLine name line := by
  by_cases hblank : line.isBlank = true
  · rw [writeLine, writeLine, Text.isBlank_orEmpty, if_pos hblank, if_pos hblank]
  · rw [Text.orEmpty_of_not_isBlank (by simpa using hblank)]

theorem writeSection_orEmpty {p q : Prologue} (h : q.commentChar = p.commentChar) (name : Text)
    (ls : List Text) : q.writeSection name (ls.map Text.orEmpty) = p.writeSection name ls := by
  have hline : ∀ line, q.writeLine name line = p.writeLine name line := by
    intro line
    rw [writeLine, writeLine, h]
  have hlines : (ls.map Text.orEmpty).map (q.writeLine name) = ls.map (p.writeLine name) := by
    rw [List.map_map]
    refine List.map_congr_left fun line _ => ?_
    show q.writeLine name line.orEmpty = p.writeLine name line
    rw [hline, writeLine_orEmpty]
  rw [writeSection, writeSection, hlines, h]

variable {p : Prologue} {name : Text}

/-! ### Blocks of a legible prologue -/

theorem outcome_lines (hp : p.Legible) {line : Text} (h : line ∈ p.outcome name) :
    Text.newline ∉ line ∧ line.chomp = line := by
  rcases mem_outcome h with h | h
  · exact hp.lines name line h
  · obtain ⟨-, -, hnewline, hreturn⟩ := stock_spec line h
    exact ⟨hnewline, Text.chomp_of_notMem hnewline hreturn⟩

theorem blocks_spec (hp : p.Legible) {b : Text × List Text} (hb : b ∈ p.blocks) :
    SectionName.IsLabel b.1 ∧ Trimmed b.2 ∧
      ∀ line ∈ b.2, Text.newline ∉ line ∧ line.chomp = line := by
  obtain ⟨houtcome, hne⟩ := (mem_blocks_iff hp.labelled.isCanonical).1 hb
  rw [← houtcome] at hne ⊢
  exact ⟨isLabel_of_outcome hp.labelled hne, trimmed_outcome hne, fun line => outcome_lines hp⟩

/-! ### What is read back -/

@[simp] theorem commentChar_reread (p : Prologue) : p.reread.commentChar = p.commentChar := by
  rw [reread, appendAll_eq]

theorem reread_eq (p : Prologue) : p.reread =
    { style := some .modern, commentChar := p.commentChar, sections := p.reread.sections } := by
  rw [reread, appendAll_eq]

/-- **Under every name its outcome is read back**, blank lines as empty ones. -/
theorem find_reread (hp : p.Legible) (name : Text) :
    p.reread.sections.find name = (p.outcome name).map Text.orEmpty := by
  have hcanonical : ∀ c ∈ p.blocks.map (fun b => (b.1, b.2.map Text.orEmpty)),
      SectionName.canonical c.1 = c.1 := by
    intro c hc
    obtain ⟨b, hb, hbc⟩ := List.mem_map.1 hc
    rw [← hbc]
    exact (blocks_spec hp hb).1.canonical
  by_cases hne : p.outcome name = []
  · -- no block has the name
    rw [reread, find_appendAll_of_notMem, hne]
    · rfl
    · intro c hc
      rw [hcanonical c hc]
      obtain ⟨b, hb, hbc⟩ := List.mem_map.1 hc
      obtain ⟨houtcome, hb'⟩ := (mem_blocks_iff hp.labelled.isCanonical).1 hb
      intro hname
      rw [← hbc] at hname
      apply hb'
      rw [← houtcome, ← hne, ← hname]
  · have hb : (name, p.outcome name) ∈ p.blocks := (mem_blocks_iff hp.labelled.isCanonical).2 ⟨rfl, hne⟩
    have hmem : (name, (p.outcome name).map Text.orEmpty) ∈
        p.blocks.map (fun b => (b.1, b.2.map Text.orEmpty)) := List.mem_map.2 ⟨_, hb, rfl⟩
    have hnodup : ((p.blocks.map (fun b => (b.1, b.2.map Text.orEmpty))).map (·.1)).Nodup := by
      rw [List.map_map]
      exact blocks_nodup hp.labelled.isCanonical
    refine find_appendAll_of_mem hmem hcanonical hnodup ?_ (Sections.find_empty name)
    intro line hline
    obtain ⟨l, hl, rfl⟩ := List.mem_map.1 hline
    exact Text.chomp_orEmpty (outcome_lines hp hl).2

/-- **Exactly the sections that were written are read back.** -/
theorem mem_entries_reread (hp : p.Legible) {b : Text × List Text} :
    b ∈ p.reread.sections.entries ↔ ∃ c ∈ p.blocks, b = (c.1, c.2.map Text.orEmpty) := by
  rw [Sections.mem_entries_iff, find_reread hp]
  constructor
  · intro h
    obtain ⟨hfind, hne⟩ := h
    rw [← hfind] at hne
    have hwritten : p.outcome b.1 ≠ [] := by simpa using hne
    refine ⟨(b.1, p.outcome b.1), (mem_blocks_iff hp.labelled.isCanonical).2 ⟨rfl, hwritten⟩, ?_⟩
    rw [hfind]
  · intro h
    obtain ⟨c, hc, rfl⟩ := h
    obtain ⟨houtcome, hne⟩ := (mem_blocks_iff hp.labelled.isCanonical).1 hc
    exact ⟨by rw [houtcome], by simpa using hne⟩

/-! ### Written lines are lines -/

section

variable {d : Char} (hd : d ∈ Unicode.gaps) (hspace : d ≠ ' ')

include hd hspace

theorem lineEnd_notMem_start (m : Marker) : .char d ∉ [m.glyph] ++ Text.ofString "  :+-" := by
  have hall : ∀ d ∈ Unicode.gaps, d ≠ ' ' → .char d ∉ [m.glyph] ++ Text.ofString "  :+-" :=
    Unicode.forall_mem_gaps.2 (by cases m <;> decide)
  exact hall d hd hspace

theorem lineEnd_notMem_writeLine {m : Marker} (hm : p.commentChar = [m.glyph]) (name : Text)
    {line : Text} (h : .char d ∉ line) : .char d ∉ p.writeLine name line := by
  have hglyph : .char d ∉ [m.glyph] := fun hmem =>
    lineEnd_notMem_start hd hspace m (List.mem_append_left _ hmem)
  have hspaces : ∀ n, .char d ∉ List.replicate n (Glyph.char ' ') := by
    intro n hmem
    exact hspace (Glyph.char.inj (List.eq_of_mem_replicate hmem))
  rw [writeLine, hm]
  split
  · exact hglyph
  · split
    · rw [List.mem_append, List.mem_append, not_or, not_or]
      exact ⟨⟨hglyph, hspaces 4⟩, h⟩
    · rw [List.mem_append, List.mem_append, not_or, not_or]
      exact ⟨⟨hglyph, hspaces 5⟩, h⟩

theorem lineEnd_notMem_writeSection {m : Marker} (hm : p.commentChar = [m.glyph])
    (hname : .char d ∉ name) {ls : List Text} (hls : ∀ line ∈ ls, .char d ∉ line) :
    ∀ line ∈ p.writeSection name ls, .char d ∉ line := by
  have hstart := lineEnd_notMem_start hd hspace m
  intro line hline
  rw [writeSection, List.cons_append, List.mem_cons, List.mem_append, hm] at hline
  rcases hline with hline | hline | hline
  · rw [hline]
    intro hmem
    rcases List.mem_append.1 hmem with hmem | hmem
    · rcases List.mem_append.1 hmem with hmem | hmem
      · exact hstart (List.mem_append.2 ((List.mem_append.1 hmem).imp id fun hmem =>
          List.mem_append_left (Text.ofString ":+-") hmem))
      · exact hname hmem
    · exact hstart (List.mem_append_right _ (by simp_all [Text.ofChar, Text.ofString]))
  · obtain ⟨l, hl, hwritten⟩ := List.mem_map.1 hline
    rw [← hwritten]
    exact lineEnd_notMem_writeLine hd hspace hm name (hls l hl)
  · rw [List.mem_singleton.1 hline]
    simp

/-- The names and lines that are written hold no line ends, if no line of the prologue does. -/
theorem lineEnd_notMem_blocks (hlines : ∀ key, ∀ line ∈ p.sections.find key, .char d ∉ line)
    {b : Text × List Text} (hb : b ∈ p.blocks) : .char d ∉ b.1 ∧ ∀ line ∈ b.2, .char d ∉ line := by
  have hstock := lineEnd_notMem_stock d hd hspace
  obtain ⟨name, -, hwritten⟩ := List.mem_filterMap.1 hb
  rcases written?_cases hwritten with ⟨hname, hls⟩ | ⟨line, hline, rfl⟩
  · obtain ⟨⟨key, hfound⟩, hheld⟩ := resolved_spec p name
    rw [hname, hls, hfound]
    refine ⟨SectionName.lineEnd_notMem_canonical hd hspace key, fun line hline => ?_⟩
    rcases mem_closed hline with hline | hline
    · obtain ⟨key, hkey⟩ := hheld line (mem_of_mem_trimBlankEdges hline)
      exact hlines key line hkey
    · exact hstock line hline
  · have hlabel := isLabel_of_mem_written (mem_written_of_lookup_defaults hline)
    refine ⟨?_, fun l hl => ?_⟩
    · show .char d ∉ name
      rw [← hlabel.canonical]
      exact SectionName.lineEnd_notMem_canonical hd hspace name
    · rw [List.mem_singleton.1 hl]
      exact hstock _ (mem_stock_of_lookup_defaults hline)

/-- **Written lines hold no line ends**, if no line of the prologue does. -/
theorem lineEnd_notMem_writtenLines (hmarked : ∃ m : Marker, p.commentChar = [m.glyph])
    (hlines : ∀ key, ∀ line ∈ p.sections.find key, .char d ∉ line) :
    ∀ line ∈ p.writtenLines, .char d ∉ line := by
  obtain ⟨m, hm⟩ := hmarked
  have hcomment : ∀ d ∈ Unicode.gaps, d ≠ ' ' → .char d ∉ Text.ofString "/*" ∧
      .char d ∉ Text.ofString "*/" := Unicode.forall_mem_gaps.2 (by decide)
  have hmarks : ∀ d ∈ Unicode.gaps, d ≠ ' ' → .char d ∉ [m.glyph, .char '+'] ∧
      .char d ∉ [m.glyph, .char '-'] := Unicode.forall_mem_gaps.2 (by cases m <;> decide)
  obtain ⟨hopens, hcloses⟩ := hcomment d hd hspace
  obtain ⟨hfirst, hlast⟩ := hmarks d hd hspace
  intro line hline
  rw [writtenLines_eq, markedLines, List.mem_append, List.mem_append, List.cons_append,
    List.mem_cons, List.mem_append, List.mem_singleton, hm] at hline
  rcases hline with (hline | hline | hline | hline) | hline
  · split at hline
    · rw [List.mem_singleton.1 hline]
      exact hopens
    · simp at hline
  · rw [hline]
    exact hfirst
  · obtain ⟨b, hb, hline⟩ := List.mem_flatMap.1 hline
    obtain ⟨hname, hls⟩ := lineEnd_notMem_blocks hd hspace hlines hb
    exact lineEnd_notMem_writeSection hd hspace hm hname hls line hline
  · rw [hline]
    exact hlast
  · split at hline
    · rw [List.mem_singleton.1 hline]
      exact hcloses
    · simp at hline

end

theorem newline_notMem_writtenLines (hp : p.Legible) :
    ∀ line ∈ p.writtenLines, Text.newline ∉ line :=
  lineEnd_notMem_writtenLines (d := '\n') (by decide) (by decide) hp.marked
    fun key line hline => (hp.lines key line hline).1

end Prologue

end SourcePrologue

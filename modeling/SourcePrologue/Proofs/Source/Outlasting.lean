import SourcePrologue.Proofs.Prologue.Lasting
import SourcePrologue.Proofs.Source.Bytes
import SourcePrologue.Proofs.Source.Documentation
import SourcePrologue.Proofs.Source.Found

/-!
# Prologues that outlast writing and reading

A written file is read line by line, each line recoded. Where a lasting prologue was written, a
prologue is found, and it lacks no standard section that the written one did not lack.

* **`Modern.classify_recode_writeLine`** — a line that is shown is a line of a section still;
* **`Prologue.Lasting.reopened`** — a section of a lasting prologue is populated again;
* **`Source.splitFrom_recoded`** — the prologue is found between the lines of the C comment around
  it.
-/

namespace SourcePrologue

open Utf8 Body Standard

/-! ### Recoded lines of a written prologue -/

theorem Utf8.isDecoded_of_isAscii {t : Text} (h : t.isAscii = true) : IsDecoded t := by
  induction t with
  | nil => exact isDecoded_nil
  | cons g t ih =>
    obtain ⟨hg, ht⟩ := Text.isAscii_cons.1 h
    cases g with
    | stray high => exact absurd hg (by simp [Text.isAsciiGlyph])
    | char c =>
      have hc : c.toNat < 0x80 := by simpa [Text.isAsciiGlyph] using hg
      rw [IsDecoded, recode_cons_ascii hc, ih (List.all_eq_true.2 ht)]

theorem Marker.exists_char (m : Marker) : ∃ c : Char, m.glyph = .char c ∧ c.toNat < 0x80 := by
  cases m with
  | star => exact ⟨'*', rfl, by decide⟩
  | hash => exact ⟨'#', rfl, by decide⟩

theorem recode_glyph_cons (m : Marker) (t : Text) :
    recode (m.glyph :: t) = m.glyph :: recode t := by
  obtain ⟨c, hglyph, hc⟩ := m.exists_char
  rw [hglyph, recode_cons_ascii hc]

theorem recode_space_cons (t : Text) : recode (.char ' ' :: t) = .char ' ' :: recode t :=
  recode_cons_ascii (by decide) t

theorem recode_replicate_space (n : Nat) (t : Text) :
    recode (List.replicate n (.char ' ') ++ t) = List.replicate n (.char ' ') ++ recode t := by
  induction n with
  | zero => rfl
  | succ n ih =>
    rw [List.replicate_succ, List.cons_append, recode_space_cons, ih, List.cons_append]

namespace Modern

variable {m : Marker} {p : Prologue}

/-- What stands behind the marker and a space does not end a prologue, nor does a marker by itself
or an empty line. -/
theorem isClosing_of_space {line : Text}
    (h : line = [] ∨ line = [m.glyph] ∨ ∃ t, line = m.glyph :: .char ' ' :: t) :
    (classify m line).isClosing = false := by
  have hopen : ∀ t, closing? t = none → (classifyMarked t).isClosing = false := by
    intro t ht
    rw [classifyMarked, ht]
    cases heading? t with
    | none => rfl
    | some name => rfl
  rcases h with rfl | rfl | ⟨t, rfl⟩
  · rfl
  · rw [classify_marked]
    exact hopen [] rfl
  · rw [classify_marked]
    exact hopen (.char ' ' :: t) rfl

/-- The lines of a written section begin with the marker and a space, or they have nothing else. -/
theorem line_of_mem_writeSection (hm : p.commentChar = [m.glyph]) {name line : Text}
    {ls : List Text} (h : line ∈ p.writeSection name ls) :
    line = [] ∨ line = [m.glyph] ∨ ∃ t, line = m.glyph :: .char ' ' :: t := by
  rw [Prologue.writeSection, List.cons_append, List.mem_cons, List.mem_append, hm] at h
  rcases h with rfl | h | h
  · exact Or.inr (Or.inr ⟨_, rfl⟩)
  · obtain ⟨l, -, rfl⟩ := List.mem_map.1 h
    rw [Prologue.writeLine, hm]
    split
    · exact Or.inr (Or.inl rfl)
    · split
      · exact Or.inr (Or.inr ⟨_, rfl⟩)
      · exact Or.inr (Or.inr ⟨_, rfl⟩)
  · exact Or.inl (List.mem_singleton.1 h)

theorem isClosing_recode (hm : p.commentChar = [m.glyph]) {name line : Text} {ls : List Text}
    (h : line ∈ p.writeSection name ls) (hline : line.IsLine) :
    (classify m (recode line).chomp).isClosing = false := by
  rw [(isLine_recode hline).chomp]
  apply isClosing_of_space
  rcases line_of_mem_writeSection hm h with rfl | rfl | ⟨t, rfl⟩
  · exact Or.inl rfl
  · exact Or.inr (Or.inl (recode_glyph_cons m []))
  · exact Or.inr (Or.inr ⟨recode t, by rw [recode_glyph_cons, recode_space_cons]⟩)

theorem writeLine_of_not_isBlank (p : Prologue) (name : Text) {line : Text}
    (h : line.isBlank = false) : p.writeLine name line = p.commentChar ++ (List.replicate
      (if name = Text.ofString "Invocation" ∧ line.head? = some (.char ':') then 4 else 5)
      (.char ' ') ++ line) := by
  rw [Prologue.writeLine, if_neg (by simp [h])]
  split
  · exact List.append_assoc _ _ _
  · exact List.append_assoc _ _ _

theorem recode_writeLine (hm : p.commentChar = [m.glyph]) (name : Text) {line : Text}
    (h : IsShown line) : recode (p.writeLine name line) = p.writeLine name (recode line) := by
  have hcolon : (recode line).head? = some (.char ':') ↔ line.head? = some (.char ':') :=
    head?_recode_ascii (by decide)
  rw [writeLine_of_not_isBlank p name h.1, writeLine_of_not_isBlank p name h.2, hm,
    List.singleton_append, List.singleton_append, recode_glyph_cons, recode_replicate_space,
    if_congr (and_congr_right fun _ => hcolon) rfl rfl]

/-- **A line that is shown** is read as a line that is not blank. -/
theorem classify_recode_writeLine (hm : p.commentChar = [m.glyph]) (name : Text) {line : Text}
    (h : IsShown line) (hline : (p.writeLine name line).IsLine) :
    classify m (recode (p.writeLine name line)).chomp = .content (recode line) := by
  rw [(isLine_recode hline).chomp, recode_writeLine hm name h, classify_writeLine hm,
    Text.orEmpty_of_not_isBlank h.2]

theorem classify_recode_heading (hm : p.commentChar = [m.glyph]) {name : Text}
    (hlabel : SectionName.IsLabel name) (hascii : name.isAscii = true)
    (hline : (p.commentChar ++ Text.ofString "  " ++ name ++ Text.ofChar ':').IsLine) :
    classify m (recode (p.commentChar ++ Text.ofString "  " ++ name ++ Text.ofChar ':')).chomp =
      .heading name := by
  have hname : recode (name ++ Text.ofChar ':') = name ++ Text.ofChar ':' := by
    have hdecoded : IsDecoded (name ++ Text.ofChar ':') :=
      (isDecoded_append_ascii (c := ':') (by decide)).2 ⟨isDecoded_of_isAscii hascii, isDecoded_nil⟩
    exact hdecoded
  have hrecode : recode ([m.glyph] ++ Text.ofString "  " ++ name ++ Text.ofChar ':') =
      [m.glyph] ++ Text.ofString "  " ++ name ++ Text.ofChar ':' := by
    have hspaces : Text.ofString "  " = List.replicate 2 (.char ' ') := rfl
    rw [hspaces, List.append_assoc, List.append_assoc, List.singleton_append, recode_glyph_cons,
      recode_replicate_space, hname]
  rw [hm] at hline ⊢
  rw [(isLine_recode hline).chomp, hrecode, classify_heading m hlabel]

end Modern

/-! ### Sections that are found again -/

/-- The names under which standard sections are written are ASCII labels. -/
theorem Standard.isAscii_of_written {name other : Text} (hname : name ∈ written)
    (h : other = name ∨ aliases.lookup name = some other) :
    SectionName.IsLabel other ∧ other.isAscii = true := by
  have hwritten : ∀ name ∈ written, name.isAscii = true := by decide +kernel
  have haliases : ∀ e ∈ aliases, e.2.isAscii = true := by decide +kernel
  rcases h with rfl | hlookup
  · exact ⟨isLabel_of_mem_written hname, hwritten _ hname⟩
  · have hmem := mem_of_lookup hlookup
    exact ⟨SectionName.isLabel_of_mem_names _ (mem_names_iff.2 (Or.inr ⟨_, hmem, rfl⟩)),
      haliases _ hmem⟩

namespace Prologue

variable {p : Prologue}

theorem Lasting.isLine_writtenLines (hp : p.Lasting) : ∀ line ∈ p.writtenLines, line.IsLine := by
  intro line hline
  constructor
  · exact lineEnd_notMem_writtenLines (d := '\n') (by decide) (by decide) hp.marked
      (fun key l hl => (hp.lines key l hl).newline) line hline
  · exact lineEnd_notMem_writtenLines (d := '\r') (by decide) (by decide) hp.marked
      (fun key l hl => (hp.lines key l hl).carriageReturn) line hline

/-- The lines of the written sections of a prologue. -/
def sectionLines (p : Prologue) : List Text := p.blocks.flatMap fun b => p.writeSection b.1 b.2

theorem mem_writtenLines_of_section {line : Text} (h : line ∈ p.sectionLines) :
    line ∈ p.writtenLines := by
  rw [writtenLines_eq, markedLines]
  exact List.mem_append_left _ (List.mem_append_right _
    (List.mem_append_left _ (List.mem_cons_of_mem _ h)))

/-- The kinds of the lines around the first line of a section that is not lacking. -/
theorem Lasting.kinds_sectionLines (hp : p.Lasting) {m : Marker} (hm : p.commentChar = [m.glyph])
    {name : Text} (hname : name ∈ Standard.written) (h : p.lacks name = false) :
    ∃ found, (found = name ∨ aliases.lookup name = some found) ∧
      ∃ ks line ls, line.isBlank = false ∧ Modern.kinds m (p.sectionLines.map recode) =
        ks ++ .heading found :: .content line :: ls := by
  obtain ⟨⟨found, held⟩, hb, hfound, line, rest, rfl, hline, hshown⟩ := hp.written hname h
  obtain ⟨hlabel, hascii⟩ := isAscii_of_written hname hfound
  obtain ⟨before, behind, hblocks⟩ := List.append_of_mem hb
  have hlines : ∀ l ∈ p.writeSection found (line :: rest), l.IsLine := fun l hl =>
    hp.isLine_writtenLines l (mem_writtenLines_of_section (List.mem_flatMap.2 ⟨_, hb, hl⟩))
  have hheading := Modern.classify_recode_heading hm hlabel hascii (hlines _ List.mem_cons_self)
  have hcontent := Modern.classify_recode_writeLine hm found hshown
    (hlines _ (List.mem_cons_of_mem _ List.mem_cons_self))
  refine ⟨found, hfound, Modern.kinds m ((before.flatMap fun b => p.writeSection b.1 b.2).map recode),
    recode line, Modern.kinds m ((rest.map (p.writeLine found) ++ [[]] ++
      (behind.flatMap fun (b : Text × List Text) => p.writeSection b.1 b.2)).map recode),
    hshown.2, ?_⟩
  rw [sectionLines, hblocks, List.flatMap_append, List.flatMap_cons, ← hheading, ← hcontent]
  simp [Modern.kinds, writeSection]

/-- **A section of a lasting prologue is populated again** where its lines are read. -/
theorem Lasting.reopened (hp : p.Lasting) {m : Marker} (hm : p.commentChar = [m.glyph])
    (hopen : ∀ line ∈ p.sectionLines.map recode, (Modern.classify m line.chomp).isClosing = false)
    {q : Prologue} (hq : q.sections = (Modern.read m (Modern.openDraft false m)
      (p.sectionLines.map recode)).settle.prologue.sections)
    {name : Text} (hname : name ∈ Standard.written) (h : p.lacks name = false) :
    q.lacks name = false := by
  obtain ⟨found, hfound, ks, line, ls, hline, hkinds⟩ := hp.kinds_sectionLines hm hname h
  have hlabel := (isAscii_of_written hname hfound).1
  have hpopulated : q.sections.find found ≠ [] := by
    have htexts := Modern.texts_read hopen false found
    have hmem := Modern.mem_textsAt_of_heading .above ks ls found hline
    rw [hlabel.canonical, hlabel.canonical, ← hkinds, ← htexts, ← hq] at hmem
    intro hnone
    rw [hnone] at hmem
    simp at hmem
  rw [← Bool.not_eq_true, lacks_iff (isLabel_of_mem_written hname).canonical]
  intro hlacks
  rcases hfound with rfl | hlookup
  · exact hpopulated hlacks.1
  · exact hpopulated (hlacks.2 found hlookup)

end Prologue

namespace Source

open Prologue

/-- A prologue that is found where another one was written lacks nothing that this one has. -/
def Reopens (p q : Prologue) : Prop :=
  ∀ name ∈ Standard.written, p.lacks name = false → q.lacks name = false

theorem splitFrom_recode_markedLines {p : Prologue} (hp : p.Lasting) (ls : List Text) :
    ∃ q, Reopens p q ∧
      splitFrom {} (p.markedLines.map recode ++ ls) = .prologue q :: splitFrom {} ls := by
  obtain ⟨m, hm⟩ := hp.marked
  have hopen : ∀ line ∈ p.sectionLines.map recode,
      (Modern.classify m line.chomp).isClosing = false := by
    intro line hline
    obtain ⟨l, hl, rfl⟩ := List.mem_map.1 hline
    obtain ⟨b, -, hsection⟩ := List.mem_flatMap.1 hl
    exact Modern.isClosing_recode hm hsection
      (hp.isLine_writtenLines l (mem_writtenLines_of_section hl))
  have hmark : ∀ c : Char, c.toNat < 0x80 →
      recode ([m.glyph] ++ Text.ofChar c) = [m.glyph] ++ Text.ofChar c := by
    intro c hc
    rw [List.singleton_append, recode_glyph_cons, Text.ofChar, recode_cons_ascii hc]
    rfl
  have hend : Modern.classify m (Text.chomp ([m.glyph] ++ Text.ofChar '-')) = .closing false := by
    have hchomp : Text.chomp ([m.glyph] ++ Text.ofChar '-') = [m.glyph, .char '-'] := by
      cases m <;> rfl
    rw [hchomp, Modern.classify_closing]
  refine ⟨(Modern.step (Modern.read m (Modern.openDraft false m) (p.sectionLines.map recode))
    (.closing false)).prologue, fun name hname h => hp.reopened hm hopen ?_ hname h, ?_⟩
  · exact Draft.sections_settle_congr rfl rfl rfl rfl
  · rw [markedLines, hm, List.map_append, List.map_cons, hmark '+' (by decide), List.map_singleton,
      hmark '-' (by decide), List.append_assoc, List.cons_append, splitFrom_start (open?_start m),
      List.singleton_append]
    exact (splitFrom_modern _ hopen _).trans (splitFrom_closing _ hend ls)

/-- **A lasting prologue is found again** where it was written, between the lines of the C comment
around it. -/
theorem splitFrom_recoded {p : Prologue} (hp : p.Lasting) (ls : List Text) :
    ∃ q, Reopens p q ∧ splitFrom {} (p.writtenLines.map recode ++ ls) =
      (if p.opensComment then [.line (Text.ofString "/*")] else []) ++ .prologue q ::
        (if p.closesComment then [.line (Text.ofString "*/")] else []) ++ splitFrom {} ls := by
  have hline : ∀ (yes : Bool) (text : Text), Reader.open? text.chomp = none → recode text = text →
      text.chomp = text → ∀ ks, splitFrom {} ((if yes then [text] else []).map recode ++ ks) =
        (if yes then [.line text] else []) ++ splitFrom {} ks := by
    intro yes text hopen hdecoded hchomp ks
    cases yes with
    | false => rfl
    | true =>
      show splitFrom {} (recode text :: ks) = .line text :: splitFrom {} ks
      rw [hdecoded, splitFrom_ordinary hopen, hchomp]
  obtain ⟨q, hq, hmarked⟩ := splitFrom_recode_markedLines hp
    ((if p.closesComment then [Text.ofString "*/"] else []).map recode ++ ls)
  have hascii : ∀ t ∈ [Text.ofString "/*", Text.ofString "*/"], recode t = t := fun t ht =>
    isDecoded_of_isAscii ((by decide : ∀ t ∈ [Text.ofString "/*", Text.ofString "*/"],
      t.isAscii = true) t ht)
  refine ⟨q, hq, ?_⟩
  rw [writtenLines_eq, List.map_append, List.map_append, List.append_assoc, List.append_assoc,
    hline _ _ open?_comment.1 (hascii _ (by simp)) rfl, hmarked,
    hline _ _ open?_comment.2 (hascii _ (by simp)) rfl]
  simp

end Source

end SourcePrologue

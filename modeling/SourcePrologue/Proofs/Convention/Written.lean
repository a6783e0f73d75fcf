import SourcePrologue.Convention.Modern
import SourcePrologue.Proofs.Section.Blocks
import SourcePrologue.Proofs.Section.Name
import SourcePrologue.Prologue.Written

/-!
# Written lines read as what they are

The lines of a written prologue, classified by the modern convention:

* **`Modern.classify_heading`** — a written heading is the heading of its label;
* **`Modern.classify_writeLine`** — a written line of a section is that line again, whatever it
  says: behind five spaces nothing is a heading or an end marker, and neither is a colon behind
  four;
* **`Modern.read_writeSection`** — so the lines of a written section make one closed block;
* **`Modern.read_blocks`** — and the lines of written sections make their blocks, in order.
-/

namespace SourcePrologue

namespace Marker

theorem isBlank_glyph (m : Marker) : m.glyph.isBlank = false := by
  cases m <;> decide

theorem glyph_of_ofGlyph? {g : Glyph} {m : Marker} (h : ofGlyph? g = some m) : g = m.glyph := by
  rw [ofGlyph?] at h
  split at h
  · next hg => rw [hg, ← Option.some.inj h]
  · split at h
    · next hg => rw [hg, ← Option.some.inj h]
    · simp at h

end Marker

/-! ### Headings -/

namespace Heading

theorem split?_label {name : Text} (h : SectionName.IsLabel name) (rest : Text) :
    split? (Text.ofString "  " ++ name ++ .char ':' :: rest) = some (name, rest) := by
  obtain ⟨g, t, hgt, hlatin⟩ := exists_cons_of_isName h.grammar
  have hspace : (g == Glyph.char ' ') = false := by
    rw [beq_eq_false_iff_ne]
    rintro rfl
    exact absurd hlatin (by decide)
  have hcolon : ∀ x ∈ name, (x != Glyph.char ':') = true := by
    intro x hx
    rw [bne_iff_ne]
    rintro rfl
    exact h.colon_notMem hx
  have hmargin : (Text.ofString "  " ++ name ++ Glyph.char ':' :: rest).takeWhile
      (· == Glyph.char ' ') = Text.ofString "  " := by
    rw [hgt]
    show Glyph.char ' ' :: Glyph.char ' ' :: List.takeWhile (· == Glyph.char ' ')
      (g :: t ++ Glyph.char ':' :: rest) = _
    rw [List.cons_append, List.takeWhile_cons, if_neg (by rw [hspace]; exact Bool.false_ne_true)]
    rfl
  have hlabel : (Text.ofString "  " ++ name ++ Glyph.char ':' :: rest).dropWhile
      (· == Glyph.char ' ') = name ++ Glyph.char ':' :: rest := by
    rw [hgt]
    show List.dropWhile (· == Glyph.char ' ') (g :: t ++ Glyph.char ':' :: rest) = _
    rw [List.cons_append, List.dropWhile_cons, if_neg (by rw [hspace]; exact Bool.false_ne_true)]
  have hname : (name ++ Glyph.char ':' :: rest).takeWhile (· != Glyph.char ':') = name := by
    rw [List.takeWhile_append_of_pos hcolon]
    simp
  have hrest : (name ++ Glyph.char ':' :: rest).dropWhile (· != Glyph.char ':') =
      Glyph.char ':' :: rest := by
    rw [List.dropWhile_append_of_pos hcolon]
    simp
  simp only [split?, hmargin, hlabel, hname, hrest, h.trimEnd]
  rw [if_pos ⟨by decide, by decide, h.grammar⟩]

/-- A name stands one to four spaces behind the marker. -/
theorem split?_eq_some {t name rest : Text} (h : split? t = some (name, rest)) :
    1 ≤ (t.takeWhile (· == .char ' ')).length ∧ (t.takeWhile (· == .char ' ')).length ≤ 4 ∧
      isName name = true ∧
      ∃ tail, name = Text.trimEnd ((t.dropWhile (· == .char ' ')).takeWhile (· != .char ':')) ∧
        (t.dropWhile (· == .char ' ')).dropWhile (· != .char ':') = tail :: rest := by
  simp only [split?] at h
  split at h
  · simp at h
  · next g tail hdrop =>
    split at h
    · next hcond =>
      rw [Option.some.injEq, Prod.mk.injEq] at h
      obtain ⟨hname, hrest⟩ := h
      rw [hname] at hcond
      exact ⟨hcond.1, hcond.2.1, hcond.2.2, g, hname.symm, by rw [hdrop, hrest]⟩
    · simp at h

theorem split?_deep (t : Text) : split? (List.replicate 5 (.char ' ') ++ t) = none := by
  by_contra hne
  obtain ⟨⟨name, rest⟩, h⟩ := Option.ne_none_iff_exists'.1 hne
  have hmargin := (split?_eq_some h).2.1
  rw [List.takeWhile_append_of_pos (by simp), List.length_append, List.length_replicate] at hmargin
  omega

theorem split?_colon (t : Text) : split? (List.replicate 4 (.char ' ') ++ .char ':' :: t) = none := by
  by_contra hne
  obtain ⟨⟨name, rest⟩, h⟩ := Option.ne_none_iff_exists'.1 hne
  obtain ⟨-, -, hgrammar, -, hname, -⟩ := split?_eq_some h
  rw [List.dropWhile_append_of_pos (by simp), List.dropWhile_cons_of_neg (by simp),
    List.takeWhile_cons_of_neg (by simp)] at hname
  rw [hname] at hgrammar
  exact absurd hgrammar (by decide)

end Heading

/-! ### Lines -/

namespace Modern

open Body

theorem classify_marked (m : Marker) (rest : Text) :
    classify m (m.glyph :: rest) = classifyMarked rest := by
  rw [classify, Text.trimStart_cons m.isBlank_glyph]
  show (if m.glyph = m.glyph then _ else _) = _
  rw [if_pos rfl]

theorem classify_closing (m : Marker) : classify m [m.glyph, .char '-'] = .closing false := by
  rw [classify_marked]
  rfl

theorem classifyMarked_of_space {t : Text} (h : t.head? = some (.char ' '))
    (hsplit : Heading.split? t = none) :
    classifyMarked t = .content (if t.isBlank then [] else stripIndent indentation t) := by
  have hclosing : closing? t = none := by
    obtain ⟨u, rfl⟩ := List.head?_eq_some_iff.1 h
    rfl
  have hheading : heading? t = none := by rw [heading?, hsplit]
  rw [classifyMarked, hclosing, hheading]

/-- The heading that is written for a section. -/
theorem classify_heading (m : Marker) {name : Text} (h : SectionName.IsLabel name) :
    classify m ([m.glyph] ++ Text.ofString "  " ++ name ++ Text.ofChar ':') = .heading name := by
  have hsplit : Heading.split? (Text.ofString "  " ++ name ++ Text.ofChar ':') = some (name, []) :=
    Heading.split?_label h []
  have hheading : heading? (Text.ofString "  " ++ name ++ Text.ofChar ':') = some name := by
    rw [heading?, hsplit]
    rfl
  rw [List.append_assoc, List.append_assoc, List.singleton_append, classify_marked,
    ← List.append_assoc, classifyMarked, hheading]
  rfl

/-- **A written line of a section is that line again.** -/
theorem classify_writeLine {p : Prologue} {m : Marker} (hm : p.commentChar = [m.glyph])
    (name line : Text) : classify m (p.writeLine name line) = .content line.orEmpty := by
  rw [Prologue.writeLine, hm, Text.orEmpty]
  by_cases hblank : line.isBlank = true
  · rw [if_pos hblank, if_pos hblank, classify_marked]
    rfl
  · rw [if_neg hblank, if_neg hblank]
    have hkept : ∀ n, Text.isBlank (List.replicate n (.char ' ') ++ line) = false := by
      intro n
      rw [Text.isBlank_append, Text.isBlank_replicate_space, Bool.true_and]
      simpa using hblank
    split
    · next hcolon =>
      -- the colon ends the indentation one column early
      obtain ⟨t, rfl⟩ := List.head?_eq_some_iff.1 hcolon.2
      rw [List.append_assoc, List.singleton_append, classify_marked,
        classifyMarked_of_space rfl (Heading.split?_colon t), if_neg (by rw [hkept]; simp)]
      rfl
    · rw [List.append_assoc, List.singleton_append, classify_marked,
        classifyMarked_of_space rfl (Heading.split?_deep line), if_neg (by rw [hkept]; simp)]
      exact congrArg Line.content (stripIndent_replicate 5 line)

theorem chomp_writeLine {p : Prologue} {m : Marker} (hm : p.commentChar = [m.glyph])
    (name : Text) {line : Text} (h : line.chomp = line) :
    (p.writeLine name line).chomp = p.writeLine name line := by
  rw [Prologue.writeLine, hm]
  by_cases hblank : line.isBlank = true
  · rw [if_pos hblank]
    cases m <;> rfl
  · rw [if_neg hblank]
    have hne : line ≠ [] := Text.ne_nil_of_isBlank_eq_false (by simpa using hblank)
    split <;> exact Text.chomp_append hne h

theorem chomp_heading (m : Marker) (name : Text) :
    Text.chomp ([m.glyph] ++ Text.ofString "  " ++ name ++ Text.ofChar ':') =
      [m.glyph] ++ Text.ofString "  " ++ name ++ Text.ofChar ':' :=
  Text.chomp_append (t := Text.ofChar ':') (List.cons_ne_nil _ _) (by decide)

/-- No line of a written section ends the prologue. -/
theorem isClosing_of_mem_writeSection {p : Prologue} {m : Marker} (hm : p.commentChar = [m.glyph])
    {name : Text} (hname : SectionName.IsLabel name) {ls : List Text}
    (hls : ∀ line ∈ ls, line.chomp = line) :
    ∀ line ∈ p.writeSection name ls, (classify m line.chomp).isClosing = false := by
  intro line hline
  rw [Prologue.writeSection, hm, List.cons_append, List.mem_cons, List.mem_append] at hline
  rcases hline with hline | hline | hline
  · rw [hline, chomp_heading, classify_heading m hname]
    rfl
  · obtain ⟨l, hl, hwritten⟩ := List.mem_map.1 hline
    rw [← hwritten, chomp_writeLine hm name (hls l hl), classify_writeLine hm]
    rfl
  · rw [List.mem_singleton.1 hline]
    rfl

/-! ### Reading -/

/-- The draft after lines of which none ends the prologue. -/
def read (m : Marker) (d : Draft) (ls : List Text) : Draft :=
  ls.foldl (fun d line => step d (classify m line.chomp)) d

@[simp] theorem read_nil (m : Marker) (d : Draft) : read m d [] = d := rfl

@[simp] theorem read_cons (m : Marker) (d : Draft) (line : Text) (ls : List Text) :
    read m d (line :: ls) = read m (step d (classify m line.chomp)) ls := rfl

theorem read_append (m : Marker) (d : Draft) (ks ls : List Text) :
    read m d (ks ++ ls) = read m (read m d ks) ls :=
  List.foldl_append

variable {p : Prologue} {m : Marker}

theorem read_writeLines (hm : p.commentChar = [m.glyph]) (name : Text) {ls : List Text}
    (hls : ∀ line ∈ ls, line.chomp = line) {d : Draft} (hd : d.isOpen = true) :
    read m d (ls.map (p.writeLine name)) = { d with block := d.block ++ ls.map Text.orEmpty } := by
  induction ls generalizing d with
  | nil => simp
  | cons line ls ih =>
    have hline := hls line List.mem_cons_self
    rw [List.map_cons, read_cons, chomp_writeLine hm name hline, classify_writeLine hm]
    have hstep : step d (.content line.orEmpty) = d.add line.orEmpty := by
      rw [step, keep, if_pos hd]
    rw [hstep, ih (fun l hl => hls l (List.mem_cons_of_mem line hl)) (by exact hd)]
    simp [Draft.add, List.append_assoc]

/-- The lines of a written section make one closed block. -/
theorem read_writeSection (hm : p.commentChar = [m.glyph]) {name : Text}
    (hname : SectionName.IsLabel name) {ls : List Text} (hls : ∀ line ∈ ls, line.chomp = line)
    (htrim : Trimmed ls) {d : Draft} (hopen : d.heading = none) (hblock : d.block = []) :
    read m d (p.writeSection name ls) =
      { d with blocks := d.blocks ++ [(name, ls.map Text.orEmpty)] } := by
  have hstart : step d (.heading name) = { d with heading := some name } := by
    rw [step, Draft.start, Draft.close, hopen, hname.canonical]
  have htrimmed := trimmed_map_orEmpty htrim
  have hblank : classify m (Text.chomp []) = .separator := rfl
  rw [Prologue.writeSection, hm, List.cons_append, read_cons, chomp_heading,
    classify_heading m hname, read_append, hstart, read_writeLines hm name hls rfl, hblock,
    read_cons, hblank]
  rw [List.nil_append, step, Draft.close, read_nil]
  simp only [trimBlankEdges_of_trimmed htrimmed]
  rw [if_neg (by simpa using htrim.ne_nil)]
  rw [← hopen, ← hblock]

/-- **The lines of written sections make their blocks**, in order. -/
theorem read_blocks (hm : p.commentChar = [m.glyph]) {bs : List (Text × List Text)}
    (hname : ∀ b ∈ bs, SectionName.IsLabel b.1) (hls : ∀ b ∈ bs, ∀ line ∈ b.2, line.chomp = line)
    (htrim : ∀ b ∈ bs, Trimmed b.2) {d : Draft} (hopen : d.heading = none) (hblock : d.block = []) :
    read m d (bs.flatMap fun b => p.writeSection b.1 b.2) =
      { d with blocks := d.blocks ++ bs.map fun b => (b.1, b.2.map Text.orEmpty) } := by
  induction bs generalizing d with
  | nil => simp
  | cons b bs ih =>
    have hrest : ∀ c ∈ bs, c ∈ b :: bs := fun c hc => List.mem_cons_of_mem b hc
    rw [List.flatMap_cons, read_append,
      read_writeSection hm (hname b List.mem_cons_self) (hls b List.mem_cons_self)
        (htrim b List.mem_cons_self) hopen hblock,
      ih (fun c hc => hname c (hrest c hc)) (fun c hc => hls c (hrest c hc))
        (fun c hc => htrim c (hrest c hc)) (by exact hopen) (by exact hblock)]
    simp [List.append_assoc]

end Modern

end SourcePrologue

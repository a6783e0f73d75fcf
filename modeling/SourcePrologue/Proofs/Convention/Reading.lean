import SourcePrologue.Convention.Reader
import SourcePrologue.Proofs.Convention.Sound
import SourcePrologue.Proofs.Convention.Written

/-!
# Readers keep drafts sound

Both conventions open sections under the canonical forms of the names in headings and store lines
without their markers. If the names in headings are ASCII, the canonical forms are labels.

* **`Modern.sound_classify_of`**, **`Legacy.sound_classify_of`** — what a line adds, by what it is;
* **`Modern.sound_step`**, **`Legacy.sound_step`** — so a step keeps a draft sound;
* **`Reader.Sound`** — the invariant of readers, which holds at a start line (`sound_of_open?`) and
  behind every line after it (`Reader.sound_push`);
* **`Reader.SoundFor`** — the same with any property of lines that readers keep.
-/

namespace SourcePrologue

open Body SectionName

/-! ### The modern convention -/

namespace Modern

/-- What a line adds to a draft has the properties of names and lines. -/
def Line.Sound (N P : Text → Prop) : Line → Prop
  | heading name => N (SectionName.canonical name)
  | content text | unmarked text => P text
  | separator | closing _ => True

/-- The name in the heading that a line is. -/
def headingName? (m : Marker) (line : Text) : Option Text :=
  match classify m line with
  | .heading name => some name
  | _ => none

theorem isName_of_heading? {t name : Text} (h : heading? t = some name) :
    Heading.isName name = true := by
  rw [heading?] at h
  split at h
  · next found rest hsplit =>
    split at h
    · rw [← Option.some.inj h]
      exact (Heading.split?_eq_some hsplit).2.2.1
    · simp at h
  · simp at h

theorem sound_keep {N P : Text → Prop} {d : Draft} (h : d.Sound N P) {line : Text} (hline : P line) :
    (keep d line).Sound N P := by
  rw [keep]
  split
  · exact h.add hline
  · exact h

theorem sound_step_of_open {N P : Text → Prop} {d : Draft} (h : d.Sound N P) {kind : Line}
    (hkind : kind.Sound N P) (hopen : kind.isClosing = false) : (step d kind).Sound N P := by
  cases kind with
  | separator => exact h.close
  | unmarked text => exact sound_keep h hkind
  | closing comment => exact absurd hopen (by simp [Line.isClosing])
  | heading name => exact h.start hkind
  | content text => exact sound_keep h hkind

theorem sound_step {N P : Text → Prop} (hR : Regular N P) {d : Draft} (h : d.Sound N P)
    {kind : Line} (hkind : kind.Sound N P) : (step d kind).Sound N P := by
  cases kind with
  | closing comment => exact Draft.Sound.settle ⟨h.heading, h.block, h.blocks, h.sections⟩ hR
  | separator => exact sound_step_of_open h hkind rfl
  | unmarked text => exact sound_step_of_open h hkind rfl
  | heading name => exact sound_step_of_open h hkind rfl
  | content text => exact sound_step_of_open h hkind rfl

/-- **What a line can be.** -/
theorem classify_cases (m : Marker) (line : Text) :
    classify m line = .separator ∨
    (∃ comment, classify m line = .closing comment) ∨
    (∃ name, classify m line = .heading name ∧ Heading.isName name = true) ∨
    (∃ t : Text, t <:+ line ∧
      classify m line = .content (if t.isBlank then [] else stripIndent indentation t)) ∨
    ∃ g rest, classify m line = .unmarked (g :: rest) ∧ g :: rest <:+ line ∧ g.isBlank = false := by
  have hsuffix := Text.trimStart_suffix line
  cases ht : line.trimStart with
  | nil => exact Or.inl (by rw [classify, ht])
  | cons g rest =>
    rw [ht] at hsuffix
    have hclass : classify m line =
        if g = m.glyph then classifyMarked rest else .unmarked (g :: rest) := by
      rw [classify, ht]
    rw [hclass]
    by_cases hg : g = m.glyph
    · rw [if_pos hg, classifyMarked]
      cases hclosing : closing? rest with
      | some comment => exact Or.inr (Or.inl ⟨comment, rfl⟩)
      | none =>
        cases hheading : heading? rest with
        | some name =>
          exact Or.inr (Or.inr (Or.inl ⟨name, rfl, isName_of_heading? hheading⟩))
        | none =>
          exact Or.inr (Or.inr (Or.inr (Or.inl
            ⟨rest, (List.suffix_cons g rest).trans hsuffix, rfl⟩)))
    · rw [if_neg hg]
      exact Or.inr (Or.inr (Or.inr (Or.inr
        ⟨g, rest, rfl, hsuffix, Text.isBlank_of_trimStart ht⟩)))

/-- **What a line adds**: a section under the name in its heading, an empty line, or an end of the
line that is not blank. -/
theorem sound_classify_of {N P : Text → Prop} {m : Marker} {line : Text}
    (hN : ∀ name, headingName? m line = some name → Heading.isName name = true →
      N (SectionName.canonical name))
    (hempty : P []) (hP : ∀ t : Text, t <:+ line → t.isBlank = false → P t) :
    (classify m line).Sound N P := by
  rw [headingName?] at hN
  rcases classify_cases m line with h | ⟨comment, h⟩ | ⟨name, h, hname⟩ | ⟨t, ht, h⟩ |
    ⟨g, rest, h, hsuffix, hblank⟩
  · rw [h]
    trivial
  · rw [h]
    trivial
  · rw [h] at hN ⊢
    exact hN name rfl hname
  · rw [h]
    exact stripped_of_suffix ht hempty hP
  · rw [h]
    refine hP _ hsuffix ?_
    rw [Text.isBlank, List.all_cons, hblank]
    rfl

/-- The lines stored have no line ends. -/
theorem chomp_classify {m : Marker} {line : Text} (hchomp : line.chomp = line) :
    (classify m line).Sound (fun _ => True) fun text => text.chomp = text :=
  sound_classify_of (fun _ _ _ => trivial) rfl fun _ ht _ => Text.chomp_of_suffix ht hchomp

theorem keep_prologue (d : Draft) (line : Text) : (keep d line).prologue = d.prologue := by
  rw [keep]
  split <;> rfl

/-- Only the end marker puts anything into the prologue. -/
theorem step_prologue_of_open (d : Draft) {kind : Line} (hopen : kind.isClosing = false) :
    (step d kind).prologue = d.prologue := by
  cases kind with
  | separator => exact d.close_prologue
  | unmarked text => exact keep_prologue d text
  | closing comment => exact absurd hopen (by simp [Line.isClosing])
  | heading name => exact d.close_prologue
  | content text => exact keep_prologue d text

/-- A step keeps the marker and the convention of a draft. -/
theorem step_prologue (d : Draft) (kind : Line) :
    (step d kind).prologue.commentChar = d.prologue.commentChar ∧
      (step d kind).prologue.style = d.prologue.style := by
  cases hkind : kind.isClosing with
  | false =>
    rw [step_prologue_of_open d hkind]
    exact ⟨rfl, rfl⟩
  | true =>
    cases kind with
    | closing comment =>
      rw [step, Draft.settle_prologue, Prologue.appendAll_eq]
      exact ⟨rfl, rfl⟩
    | separator => exact Bool.noConfusion hkind
    | unmarked text => exact Bool.noConfusion hkind
    | heading name => exact Bool.noConfusion hkind
    | content text => exact Bool.noConfusion hkind

theorem sound_openDraft {N P : Text → Prop} (comment : Bool) (m : Marker) :
    (openDraft comment m).Sound N P := by
  refine ⟨fun name hname => ?_, ?_, ?_, ?_⟩
  · exact absurd hname (by simp [openDraft])
  · simp [openDraft]
  · simp [openDraft]
  · simp [openDraft, Sections.empty]

end Modern

/-! ### The legacy convention -/

namespace Legacy

/-- A name that a section of a legacy prologue may have in the end: no heading that introduces
declarations, and no name that has changed. -/
structure IsSectionName (name : Text) : Prop where
  label : IsLabel name
  documented : name ∉ declarations
  current : name ∉ renames.map (·.1)

theorem regular_isSectionName : Regular IsSectionName IsStored :=
  isLineProperty_isStored.regular fun _ h => h.label.canonical

/-- What a line adds to a draft has the properties of names and lines. -/
def Line.Sound (N P : Text → Prop) : Line → Prop
  | heading name trailing => N (SectionName.canonical name) ∧ P trailing
  | content text => P text
  | code | closing | endHistory | declaration => True

/-- The name in the heading that a line is. -/
def headingName? (m : Marker) : Text → Option Text
  | [] => none
  | g :: rest =>
    if g = m.glyph then (heading? rest).bind fun _ => (Heading.split? rest).map (·.1) else none

theorem isSectionName_renamed {e : Text × Text} (he : e ∈ renames) : IsSectionName e.2 := by
  have hall : ∀ e ∈ renames, IsLabel e.2 ∧ e.2 ∉ declarations ∧ e.2 ∉ renames.map (·.1) := by
    decide +kernel
  obtain ⟨hlabel, hdocumented, hcurrent⟩ := hall e he
  exact ⟨hlabel, hdocumented, hcurrent⟩

theorem isSectionName_opening : IsSectionName "Name" ∧ IsSectionName "Purpose" := by
  have hall : ∀ name ∈ [Text.ofString "Name", Text.ofString "Purpose"],
      IsLabel name ∧ name ∉ declarations ∧ name ∉ renames.map (·.1) := by decide +kernel
  have hname := hall "Name" (by simp)
  have hpurpose := hall "Purpose" (by simp)
  exact ⟨⟨hname.1, hname.2.1, hname.2.2⟩, hpurpose.1, hpurpose.2.1, hpurpose.2.2⟩

theorem isSectionName_of_lookup {name : Text} (hlabel : IsLabel name) (h : name ∉ declarations) :
    IsSectionName ((renames.lookup name).getD name) := by
  cases hlookup : renames.lookup name with
  | none =>
    refine ⟨hlabel, h, ?_⟩
    intro hmem
    obtain ⟨e, he, hname⟩ := List.mem_map.1 hmem
    have hnone := List.lookup_eq_none_iff.1 hlookup e he
    simp [hname] at hnone
  | some renamed =>
    exact isSectionName_renamed (mem_of_lookup hlookup)

theorem isStored_trailing {t trailing : Text} (h : trailing? t = some trailing) :
    IsStored trailing := by
  rw [trailing?] at h
  simp only [List.contains_eq_mem, decide_eq_true_eq] at h
  split at h
  · simp at h
  · next hnewline =>
    rw [← Option.some.inj h]
    refine ⟨?_, Text.chomp_of_trimEnd (Text.trimEnd_trimEnd _), ?_⟩
    · intro hmem
      exact hnewline ((Text.dropEnd_prefix_self _ _).subset hmem)
    · intro hblank
      rw [← Text.trimEnd_trimEnd, Text.trimEnd_eq_nil_iff]
      exact hblank

theorem heading?_eq_some {t name trailing : Text} (h : heading? t = some (name, trailing)) :
    ∃ raw rest, Heading.split? t = some (raw, rest) ∧ name = SectionName.canonical raw ∧
      trailing? rest = some trailing := by
  rw [heading?] at h
  obtain ⟨⟨raw, rest⟩, hsplit, h⟩ := Option.bind_eq_some_iff.1 h
  obtain ⟨found, htrailing, h⟩ := Option.bind_eq_some_iff.1 h
  split at h
  · rw [Option.some.injEq, Prod.mk.injEq] at h
    refine ⟨raw, rest, hsplit, h.1.symm, ?_⟩
    rw [htrailing, h.2]
  · simp at h

theorem sound_step {N P : Text → Prop} {d : Draft} (h : d.Sound N P) {kind : Line}
    (hkind : kind.Sound N P) : (step d kind).Sound N P := by
  cases kind with
  | heading name trailing =>
    obtain ⟨hname, htrailing⟩ := hkind
    show Draft.Sound N P (if trailing.isEmpty then d.start name else (d.start name).add trailing)
    split
    · exact h.start hname
    · exact (h.start hname).add htrailing
  | content text =>
    show Draft.Sound N P (if d.isOpen then d.add text else d)
    split
    · exact h.add hkind
    · exact h
  | code => exact h
  | closing => exact h
  | endHistory => exact h
  | declaration => exact h

/-- A step that does not end a prologue leaves what has been put into it alone. -/
theorem step_prologue (d : Draft) (kind : Line) : (step d kind).prologue = d.prologue := by
  cases kind with
  | heading name trailing =>
    show (if trailing.isEmpty then d.start name else (d.start name).add trailing).prologue = _
    split
    · exact Draft.close_prologue d
    · exact Draft.close_prologue d
  | content text =>
    show (if d.isOpen then d.add text else d).prologue = _
    split
    · rfl
    · rfl
  | code => rfl
  | closing => rfl
  | endHistory => rfl
  | declaration => rfl

/-- **What a line can be.** -/
theorem classify_cases (m : Marker) (line : Text) :
    classify m line = .code ∨ classify m line = .closing ∨ classify m line = .endHistory ∨
    classify m line = .declaration ∨
    (∃ raw trailing tail, headingName? m line = some raw ∧ Heading.isName raw = true ∧
      SectionName.canonical raw ∉ declarations ∧ trailing? tail = some trailing ∧
      classify m line = .heading
        ((renames.lookup (SectionName.canonical raw)).getD (SectionName.canonical raw)) trailing) ∨
    ∃ t : Text, t <:+ line ∧
      classify m line = .content (if t.isBlank then [] else stripIndent indentation t) := by
  cases line with
  | nil => exact Or.inl rfl
  | cons g rest =>
    by_cases hg : g = m.glyph
    · have hclass : classify m (g :: rest) = classifyMarked rest := by rw [classify, if_pos hg]
      rw [hclass, classifyMarked]
      split
      · exact Or.inr (Or.inl rfl)
      · split
        · exact Or.inr (Or.inr (Or.inl rfl))
        · cases hheading : heading? rest with
          | none =>
            exact Or.inr (Or.inr (Or.inr (Or.inr (Or.inr ⟨rest, List.suffix_cons g rest, rfl⟩))))
          | some heading =>
            obtain ⟨name, trailing⟩ := heading
            obtain ⟨raw, tail, hsplit, rfl, htrailing⟩ := heading?_eq_some hheading
            have hraw : headingName? m (g :: rest) = some raw := by
              rw [headingName?, if_pos hg, hheading, hsplit]
              rfl
            by_cases hdeclaration : SectionName.canonical raw ∈ declarations
            · exact Or.inr (Or.inr (Or.inr (Or.inl (if_pos hdeclaration))))
            · exact Or.inr (Or.inr (Or.inr (Or.inr (Or.inl ⟨raw, trailing, tail, hraw,
                (Heading.split?_eq_some hsplit).2.2.1, hdeclaration, htrailing,
                if_neg hdeclaration⟩))))
    · exact Or.inl (by rw [classify, if_neg hg])

/-- **What a line adds**: a section under the current form of the name in its heading, the text
behind the colon, an empty line, or an end of the line that is not blank. -/
theorem sound_classify_of {N P : Text → Prop} {m : Marker} {line : Text}
    (hN : ∀ raw, headingName? m line = some raw → Heading.isName raw = true →
      SectionName.canonical raw ∉ declarations → N (SectionName.canonical
        ((renames.lookup (SectionName.canonical raw)).getD (SectionName.canonical raw))))
    (hstored : ∀ t, IsStored t → P t) (hP : ∀ t : Text, t <:+ line → t.isBlank = false → P t) :
    (classify m line).Sound N P := by
  rcases classify_cases m line with h | h | h | h |
    ⟨raw, trailing, tail, hraw, hname, hdeclaration, htrailing, h⟩ | ⟨t, ht, h⟩
  · rw [h]
    trivial
  · rw [h]
    trivial
  · rw [h]
    trivial
  · rw [h]
    trivial
  · rw [h]
    exact ⟨hN raw hraw hname hdeclaration, hstored trailing (isStored_trailing htrailing)⟩
  · rw [h]
    exact stripped_of_suffix ht (hstored [] isStored_nil) hP

/-- The current form of an ASCII name in a heading. -/
theorem isSectionName_of_isAscii {raw : Text} (hname : Heading.isName raw = true)
    (hascii : raw.isAscii = true) (hdeclaration : SectionName.canonical raw ∉ declarations) :
    IsSectionName (SectionName.canonical
      ((renames.lookup (SectionName.canonical raw)).getD (SectionName.canonical raw))) := by
  have hfinal := isSectionName_of_lookup (isLabel_canonical hname hascii) hdeclaration
  rw [hfinal.label.canonical]
  exact hfinal

/-- Whatever the names in headings, the lines stored have no line ends. -/
theorem chomp_classify {m : Marker} {line : Text} (hchomp : line.chomp = line) :
    (classify m line).Sound (fun _ => True) fun text => text.chomp = text :=
  sound_classify_of (fun _ _ _ _ => trivial) (fun _ h => h.chomp) fun _ ht _ =>
    Text.chomp_of_suffix ht hchomp

/-! ### Start lines of the legacy convention -/

theorem afterBlank?_eq_some {t u : Text} (h : afterBlank? t = some u) :
    u <:+ t ∧ (u ≠ [] → u.isBlank = false) := by
  cases t with
  | nil => simp [afterBlank?] at h
  | cons g t =>
    rw [afterBlank?] at h
    split at h
    · rw [← Option.some.inj h]
      refine ⟨(Text.trimStart_suffix t).trans (List.suffix_cons g t), fun hne => ?_⟩
      obtain ⟨x, rest, hx⟩ := List.exists_cons_of_ne_nil hne
      rw [hx, Text.isBlank, List.all_cons, Text.isBlank_of_trimStart hx]
      rfl
    · simp at h

/-- The name in a start line is a word, and the purpose is the end of the line. -/
theorem titleOf?_eq_some {t name purpose : Text} (h : titleOf? t = some (name, purpose)) :
    Text.IsSolid name ∧ purpose <:+ t ∧ purpose.isBlank = false ∧ Text.newline ∉ purpose := by
  rw [titleOf?] at h
  obtain ⟨u, hu, h⟩ := Option.bind_eq_some_iff.1 h
  obtain ⟨v, hv, h⟩ := Option.bind_eq_some_iff.1 h
  obtain ⟨w, hw, h⟩ := Option.bind_eq_some_iff.1 h
  obtain ⟨found, hfound, h⟩ := Option.bind_eq_some_iff.1 h
  split at h
  · simp at h
  · next hcond =>
    simp only [Bool.or_eq_true, not_or, List.isEmpty_iff, List.contains_eq_mem,
      decide_eq_true_eq] at hcond
    obtain ⟨⟨hname, hpurpose⟩, hnewline⟩ := hcond
    rw [Option.some.injEq, Prod.mk.injEq] at h
    have hdash : w <:+ v := by
      rw [Text.after?, List.isPrefixOf?_eq_some_iff_append_eq] at hw
      exact ⟨_, hw⟩
    have hsuffix : found <:+ t :=
      (afterBlank?_eq_some hfound).1.trans (hdash.trans ((afterBlank?_eq_some hv).1.trans
        ((List.dropWhile_suffix _).trans (afterBlank?_eq_some hu).1)))
    rw [← h.1, ← h.2]
    refine ⟨⟨hname, ?_⟩, hsuffix, (afterBlank?_eq_some hfound).2 hpurpose, hnewline⟩
    intro g hg
    simpa using List.mem_takeWhile_imp hg

theorem opening?_eq_some {line : Text} {o : Opening} (h : opening? line = some o) :
    ∃ g rest, line.trim = g :: .char '+' :: rest ∧ g = o.marker.glyph ∧
      titleOf? rest = some (o.name, o.purpose) := by
  rw [opening?] at h
  split at h
  · next g rest htrim =>
    obtain ⟨m, hm, h⟩ := Option.bind_eq_some_iff.1 h
    obtain ⟨⟨name, purpose⟩, htitle, h⟩ := Option.bind_eq_some_iff.1 h
    rw [← Option.some.inj h]
    exact ⟨g, rest, htrim, Marker.glyph_of_ofGlyph? hm, htitle⟩
  · simp at h

theorem isStored_of_opening? {line : Text} {o : Opening} (h : opening? line = some o) :
    IsStored o.name ∧ IsStored o.purpose ∧ o.name.isBlank = false ∧ o.purpose.isBlank = false := by
  obtain ⟨g, rest, htrim, -, htitle⟩ := opening?_eq_some h
  obtain ⟨hsolid, hsuffix, hpurpose, hnewline⟩ := titleOf?_eq_some htitle
  obtain ⟨hstored, hname⟩ := isStored_of_isSolid hsolid
  -- the purpose ends where the trimmed line ends
  have hline : o.purpose <:+ line.trim := by
    rw [htrim]
    exact hsuffix.trans ((List.suffix_cons _ _).trans (List.suffix_cons _ _))
  have hchomp : o.purpose.chomp = o.purpose :=
    Text.chomp_of_trimEnd (Text.dropEnd_of_suffix hline (Text.trimEnd_trimEnd _))
  exact ⟨hstored, isStored_of_not_isBlank hnewline hchomp hpurpose, hname, hpurpose⟩

theorem sound_openDraft {line : Text} {o : Opening} (h : opening? line = some o) :
    (openDraft o).Sound IsSectionName IsStored := by
  obtain ⟨hname, hpurpose, hblank, -⟩ := isStored_of_opening? h
  have hlabels := isSectionName_opening
  have hblock : IsBlock IsSectionName IsStored (Text.ofString "Name", [o.name]) :=
    isBlock_single hlabels.1 hname hblank
  have hsections := Prologue.isBlock_setContent
    (p := { style := some .legacy, commentChar := [o.marker.glyph] }) regular_isSectionName
    (by simp [Sections.empty]) hblock
  have hdraft : Draft.Sound IsSectionName IsStored
      { prologue := ({ style := some .legacy, commentChar := [o.marker.glyph] } :
          Prologue).setContent "Name" [o.name] } := by
    refine ⟨fun name hname => ?_, by simp, by simp, hsections⟩
    simp at hname
  refine (hdraft.start ?_).add hpurpose
  rw [hlabels.2.label.canonical]
  exact hlabels.2

end Legacy

/-! ### Readers -/

/-- The name of a line as a heading in the prologue that is being read. -/
def Reader.headingName? (r : Reader) (line : Text) : Option Text :=
  match r with
  | modern m _ => Modern.headingName? m line
  | legacy m _ _ => Legacy.headingName? m line

/-- What holds of a reader: its draft is sound, and the prologue in it has the marker and the
convention of the reader. -/
def Reader.Sound : Reader → Prop
  | modern m d => d.Sound IsLabel IsStored ∧ d.prologue.commentChar = [m.glyph] ∧
      d.prologue.style = some .modern
  | legacy m _ d => d.Sound Legacy.IsSectionName IsStored ∧ d.prologue =
      { style := some .legacy, commentChar := [m.glyph], sections := d.prologue.sections }

/-- A reader that is sound but for its lines, which have property `P` only. -/
def Reader.SoundFor (P : Text → Prop) : Reader → Prop
  | modern m d => d.Sound IsLabel P ∧ d.prologue.commentChar = [m.glyph] ∧
      d.prologue.style = some .modern
  | legacy m _ d => d.Sound Legacy.IsSectionName P ∧ d.prologue =
      { style := some .legacy, commentChar := [m.glyph], sections := d.prologue.sections }

/-- A prologue as readers give it: with a marker, labels and stored lines. -/
structure Prologue.Sound (p : Prologue) : Prop where
  marked : ∃ m : Marker, p.commentChar = [m.glyph]
  sections : ∀ e ∈ p.sections.entries, IsBlock IsLabel IsStored e

theorem regular_isLabel : Regular IsLabel IsStored :=
  isLineProperty_isStored.regular fun _ h => h.canonical

namespace Reader

variable {r : Reader} {line : Text} {P : Text → Prop}

theorem sound_iff : r.Sound ↔ r.SoundFor IsStored := by
  cases r <;> rfl

theorem Sound.soundFor (h : r.Sound) (hP : IsLineProperty P) : r.SoundFor P := by
  cases r with
  | modern m d => exact ⟨h.1.mono_line hP.stored, h.2⟩
  | legacy m seen d => exact ⟨h.1.mono_line hP.stored, h.2⟩

/-- A line opens what one of the conventions makes of it. -/
theorem exists_openAs? (h : open? line = some r) : ∃ style, openAs? style line = some r := by
  obtain ⟨style, -, hstyle⟩ := List.exists_of_findSome?_eq_some h
  exact ⟨style, hstyle⟩

theorem style_of_openAs? {style : Style} (h : openAs? style line = some r) :
    r.draft.prologue.style = some style := by
  cases style with
  | modern =>
    obtain ⟨⟨comment, m⟩, -, rfl⟩ := Option.map_eq_some_iff.1 h
    rfl
  | legacy =>
    obtain ⟨o, -, rfl⟩ := Option.map_eq_some_iff.1 h
    rfl

theorem sound_of_openAs? {style : Style} (h : openAs? style line = some r) : r.Sound := by
  cases style with
  | modern =>
    obtain ⟨⟨comment, m⟩, -, hr⟩ := Option.map_eq_some_iff.1 h
    rw [← hr]
    exact ⟨Modern.sound_openDraft comment m, rfl, rfl⟩
  | legacy =>
    obtain ⟨o, ho, hr⟩ := Option.map_eq_some_iff.1 h
    rw [← hr]
    exact ⟨Legacy.sound_openDraft ho, rfl⟩

theorem sound_of_open? (h : open? line = some r) : r.Sound := by
  obtain ⟨style, hr⟩ := exists_openAs? h
  exact sound_of_openAs? hr

theorem soundFor_settle (hP : IsLineProperty P) (h : r.SoundFor P) : r.settle.SoundFor P := by
  cases r with
  | modern m d =>
    obtain ⟨hdraft, hmarker, hstyle⟩ := h
    refine ⟨hdraft.settle (hP.regular fun _ hname => hname.canonical), ?_, ?_⟩
    · rw [Draft.settle_prologue, Prologue.appendAll_eq]
      exact hmarker
    · rw [Draft.settle_prologue, Prologue.appendAll_eq]
      exact hstyle
  | legacy m seen d =>
    obtain ⟨hdraft, hprologue⟩ := h
    refine ⟨hdraft.settle (hP.regular fun _ hname => hname.label.canonical), ?_⟩
    rw [Draft.settle_prologue, Prologue.appendAll_eq, hprologue]

/-- **A line keeps a reader sound**, if what is not blank of its end has the property of lines. -/
theorem soundFor_push (hP : IsLineProperty P) (h : r.SoundFor P)
    (hline : ∀ t : Text, t <:+ line → t.isBlank = false → P t)
    (hascii : ∀ name, r.headingName? line = some name → name.isAscii = true) :
    (r.push line).1.SoundFor P := by
  cases r with
  | modern m d =>
    obtain ⟨hdraft, hmarker, hstyle⟩ := h
    have hkind : (Modern.classify m line).Sound IsLabel P := Modern.sound_classify_of
      (fun name hheading hname => isLabel_canonical hname (hascii name hheading))
      (hP.stored [] isStored_nil) hline
    have hprologue := Modern.step_prologue d (Modern.classify m line)
    refine ⟨Modern.sound_step (hP.regular fun _ hname => hname.canonical) hdraft hkind, ?_, ?_⟩
    · exact hprologue.1.trans hmarker
    · exact hprologue.2.trans hstyle
  | legacy m seen d =>
    obtain ⟨hdraft, hprologue⟩ := h
    have hkind : (Legacy.classify m line).Sound Legacy.IsSectionName P := Legacy.sound_classify_of
      (fun raw hheading hname => Legacy.isSectionName_of_isAscii hname (hascii raw hheading))
      hP.stored hline
    have hstep := Legacy.step_prologue d (Legacy.classify m line)
    rw [push]
    by_cases hend : (Legacy.classify m line).isEnd seen = true
    · simp only [if_pos hend]
      exact soundFor_settle (r := .legacy m seen d) hP ⟨hdraft, hprologue⟩
    · simp only [if_neg hend]
      refine ⟨Legacy.sound_step hdraft hkind, ?_⟩
      rw [hstep]
      exact hprologue

theorem sound_settle (h : r.Sound) : r.settle.Sound :=
  sound_iff.2 (soundFor_settle isLineProperty_isStored (sound_iff.1 h))

/-- **A line keeps a reader sound.** -/
theorem sound_push (h : r.Sound) (hnewline : Text.newline ∉ line) (hchomp : line.chomp = line)
    (hascii : ∀ name, r.headingName? line = some name → name.isAscii = true) :
    (r.push line).1.Sound :=
  sound_iff.2 (soundFor_push isLineProperty_isStored (sound_iff.1 h)
    (fun _ ht => isStored_of_suffix ht hnewline hchomp) hascii)

theorem style_settle (r : Reader) :
    r.settle.draft.prologue.style = r.draft.prologue.style := by
  cases r with
  | modern m d =>
    show d.settle.prologue.style = _
    rw [Draft.settle_prologue, Prologue.appendAll_eq]
    rfl
  | legacy m seen d =>
    show d.settle.prologue.style = _
    rw [Draft.settle_prologue, Prologue.appendAll_eq]
    rfl

/-- A line does not change the convention that the prologue was found in. -/
theorem style_push (r : Reader) (line : Text) :
    (r.push line).1.draft.prologue.style = r.draft.prologue.style := by
  cases r with
  | modern m d => exact (Modern.step_prologue d (Modern.classify m line)).2
  | legacy m seen d =>
    rw [push]
    by_cases hend : (Legacy.classify m line).isEnd seen = true
    · simp only [if_pos hend]
      exact style_settle (.legacy m seen d)
    · simp only [if_neg hend]
      show (Legacy.step d (Legacy.classify m line)).prologue.style = d.prologue.style
      rw [Legacy.step_prologue]

/-- What a reader gives is the prologue in its draft. -/
theorem prologue_of_push {p : Prologue} (h : (r.push line).2.prologue = some p) :
    p = (r.push line).1.draft.prologue := by
  cases r with
  | modern m d =>
    rw [push] at h ⊢
    simp only at h
    split at h
    · exact (Option.some.inj h).symm
    · simp at h
  | legacy m seen d =>
    rw [push] at h ⊢
    by_cases hend : (Legacy.classify m line).isEnd seen = true
    · simp only [if_pos hend] at h ⊢
      exact (Option.some.inj h).symm
    · simp only [if_neg hend] at h
      simp at h

/-- The prologue in the draft of a sound reader. -/
theorem sound_draft (h : r.Sound) : r.draft.prologue.Sound := by
  cases r with
  | modern m d => exact ⟨⟨m, h.2.1⟩, h.1.sections⟩
  | legacy m seen d =>
    refine ⟨⟨m, by rw [draft, h.2]⟩, ?_⟩
    exact (h.1.mono fun name hname => hname.label).sections

end Reader

end SourcePrologue

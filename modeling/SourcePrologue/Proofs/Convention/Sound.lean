import SourcePrologue.Proofs.Section.Blocks
import SourcePrologue.Proofs.Section.Name

/-!
# Sound drafts

What holds of everything that has been read into a draft, whatever convention reads it. The names of
its sections have a property `N` and their lines a property `P`, and the blocks that are closed have
no blank edges.

* **`Draft.Sound`** — the invariant, for any two such properties;
* **`Draft.Sound.start`**, **`Draft.Sound.add`**, **`Draft.Sound.settle`** — the steps of reading
  keep it, as long as `N` holds of the names opened and `P` of the lines added;
* **`Body.IsStored`** — the lines that readers add.
-/

namespace SourcePrologue

open Body

/-! ### Stored lines -/

/-- A line as readers store it: without line ends, and empty if it is blank. -/
structure Body.IsStored (line : Text) : Prop where
  newline : Text.newline ∉ line
  chomp : line.chomp = line
  empty : line.isBlank = true → line = []

theorem Body.isStored_nil : IsStored [] := ⟨by simp, rfl, fun _ => rfl⟩

theorem Body.isStored_of_not_isBlank {line : Text} (hnewline : Text.newline ∉ line)
    (hchomp : line.chomp = line) (hblank : line.isBlank = false) : IsStored line := by
  refine ⟨hnewline, hchomp, ?_⟩
  intro h
  rw [hblank] at h
  exact Bool.noConfusion h

/-- A word can be stored as it is. -/
theorem Body.isStored_of_isSolid {w : Text} (h : Text.IsSolid w) :
    IsStored w ∧ w.isBlank = false := by
  obtain ⟨hne, hsolid⟩ := h
  have hblank : w.isBlank = false := by
    by_contra hblank
    rw [Bool.not_eq_false, Text.isBlank_iff] at hblank
    obtain ⟨g, hg⟩ := List.exists_mem_of_ne_nil _ hne
    have hsolid' := hsolid g hg
    rw [hblank g hg] at hsolid'
    exact Bool.noConfusion hsolid'
  have hnewline : Text.newline ∉ w := by
    intro hmem
    have hsolid' := hsolid _ hmem
    rw [Text.isBlank_newline] at hsolid'
    exact Bool.noConfusion hsolid'
  have hchomp : w.chomp = w := by
    refine Text.chomp_of_trimEnd (Text.trimEnd_eq_self_iff.2 fun g hg => ?_)
    exact hsolid g (List.mem_of_getLast? hg)
  exact ⟨isStored_of_not_isBlank hnewline hchomp hblank, hblank⟩

theorem Body.isStored_of_suffix {t line : Text} (ht : t <:+ line) (hnewline : Text.newline ∉ line)
    (hchomp : line.chomp = line) (hblank : t.isBlank = false) : IsStored t :=
  isStored_of_not_isBlank (fun hmem => hnewline (ht.subset hmem)) (Text.chomp_of_suffix ht hchomp)
    hblank

/-- What stands behind the marker of a line is stored without its indentation. -/
theorem Body.stripped_of_suffix {P : Text → Prop} {t line : Text} (ht : t <:+ line) (hempty : P [])
    (hP : ∀ u : Text, u <:+ line → u.isBlank = false → P u) :
    P (if t.isBlank then [] else stripIndent indentation t) := by
  split
  · exact hempty
  · next hblank =>
    refine hP _ ((stripIndent_suffix indentation t).trans ht) ?_
    rw [isBlank_stripIndent]
    simpa using hblank

/-! ### Blocks -/

section

/-- Properties of names and of lines that joining blocks does not lose. -/
structure Body.Regular (N P : Text → Prop) : Prop where
  canonical : ∀ name, N name → N (SectionName.canonical name)
  chomp : ∀ line, P line → line.chomp = line
  empty : P []

/-- A property of lines that readers keep: it forbids line ends, and lines that have been stored
have it. -/
structure Body.IsLineProperty (P : Text → Prop) : Prop where
  chomp : ∀ line, P line → line.chomp = line
  stored : ∀ line, IsStored line → P line

/-- A **block** whose name has property `N` and whose lines have property `P`. -/
def Body.IsBlock (N P : Text → Prop) (b : Text × List Text) : Prop :=
  N b.1 ∧ Trimmed b.2 ∧ ∀ line ∈ b.2, P line

variable {N P : Text → Prop}

theorem Body.isLineProperty_isStored : IsLineProperty IsStored := ⟨fun _ h => h.chomp, fun _ h => h⟩

theorem Body.IsLineProperty.regular (hP : IsLineProperty P)
    (hN : ∀ name, N name → SectionName.canonical name = name) : Regular N P := by
  refine ⟨fun name h => ?_, hP.chomp, hP.stored [] isStored_nil⟩
  rw [hN name h]
  exact h

/-- One line that is not blank is a block. -/
theorem Body.isBlock_single {name line : Text} (hname : N name) (hline : P line)
    (hblank : line.isBlank = false) : IsBlock N P (name, [line]) := by
  refine ⟨hname, trimmed_singleton hblank, ?_⟩
  intro l hl
  rw [List.mem_singleton.1 hl]
  exact hline

theorem Body.isBlock_extend (hempty : P []) {name : Text} {held ls : List Text}
    (hheld : held ≠ [] → IsBlock N P (name, held)) (hb : IsBlock N P (name, ls)) :
    IsBlock N P (name, extend held ls) := by
  obtain ⟨hname, htrimmed, hlines⟩ := hb
  by_cases hnil : held = []
  · rw [hnil, extend_nil]
    exact ⟨hname, htrimmed, hlines⟩
  · obtain ⟨-, htrimmed', hlines'⟩ := hheld hnil
    refine ⟨hname, trimmed_extend (Or.inr htrimmed') htrimmed, ?_⟩
    intro line hline
    rcases mem_extend hline with hline | hline | hline
    · exact hlines' line hline
    · rw [hline]
      exact hempty
    · exact hlines line hline

theorem Prologue.isBlock_setContent {p : Prologue} (hR : Regular N P)
    (hp : ∀ e ∈ p.sections.entries, IsBlock N P e) {b : Text × List Text} (hb : IsBlock N P b) :
    ∀ e ∈ (p.setContent b.1 b.2).sections.entries, IsBlock N P e := by
  intro e he
  obtain ⟨hfind, hne⟩ := Sections.mem_entries_iff.1 he
  rw [setContent, Sections.find_set] at hfind
  by_cases hname : e.1 = SectionName.canonical b.1
  · have hkept : b.2.map Text.chomp = b.2 := by
      rw [List.map_congr_left fun line hline => hR.chomp line (hb.2.2 line hline), List.map_id']
    rw [if_pos hname, hkept] at hfind
    rw [show e = (SectionName.canonical b.1, b.2) from Prod.ext hname hfind.symm]
    exact ⟨hR.canonical b.1 hb.1, hb.2⟩
  · rw [if_neg hname] at hfind
    exact hp e (Sections.mem_entries_iff.2 ⟨hfind, hne⟩)

theorem Prologue.isBlock_append {p : Prologue} (hR : Regular N P)
    (hp : ∀ e ∈ p.sections.entries, IsBlock N P e) {b : Text × List Text} (hb : IsBlock N P b) :
    ∀ e ∈ (p.append b.1 b.2).sections.entries, IsBlock N P e := by
  have hheld : p.content b.1 ≠ [] → IsBlock N P (b.1, p.content b.1) := by
    intro hne
    have hentry := hp _ (Sections.mem_entries_of_find hne)
    exact ⟨hb.1, hentry.2⟩
  exact isBlock_setContent hR hp (isBlock_extend hR.empty hheld hb)

theorem Prologue.isBlock_appendAll {p : Prologue} (hR : Regular N P)
    (hp : ∀ e ∈ p.sections.entries, IsBlock N P e) {bs : List (Text × List Text)}
    (hbs : ∀ b ∈ bs, IsBlock N P b) :
    ∀ e ∈ (p.appendAll bs).sections.entries, IsBlock N P e := by
  induction bs generalizing p with
  | nil => exact hp
  | cons b bs ih =>
    rw [appendAll_cons]
    exact ih (isBlock_append hR hp (hbs b List.mem_cons_self))
      fun c hc => hbs c (List.mem_cons_of_mem b hc)

/-! ### Drafts -/

namespace Draft

/-- A **sound** draft: every name it holds has property `N`, every line property `P`, and every
closed block begins and ends with a line that is not blank. -/
structure Sound (N P : Text → Prop) (d : Draft) : Prop where
  heading : ∀ name, d.heading = some name → N name
  block : ∀ line ∈ d.block, P line
  blocks : ∀ b ∈ d.blocks, IsBlock N P b
  sections : ∀ e ∈ d.prologue.sections.entries, IsBlock N P e

variable {d : Draft}

theorem Sound.close (h : d.Sound N P) : d.close.Sound N P := by
  rw [Draft.close]
  split
  · exact h
  · next name hname =>
    refine ⟨?_, by simp, ?_, h.sections⟩
    · intro other hother
      simp at hother
    · show ∀ b ∈ (if (trimBlankEdges d.block).isEmpty then d.blocks
        else d.blocks ++ [(name, trimBlankEdges d.block)]), IsBlock N P b
      split
      · exact h.blocks
      · next hne =>
        intro b hb
        rcases List.mem_append.1 hb with hb | hb
        · exact h.blocks b hb
        · rw [List.mem_singleton.1 hb]
          exact ⟨h.heading name hname, trimmed_trimBlankEdges (by simpa using hne),
            fun line hline => h.block line (mem_of_mem_trimBlankEdges hline)⟩

theorem Sound.start (h : d.Sound N P) {name : Text} (hname : N (SectionName.canonical name)) :
    (d.start name).Sound N P := by
  refine ⟨?_, h.close.block, h.close.blocks, h.close.sections⟩
  intro other hother
  rw [← Option.some.inj hother]
  exact hname

theorem Sound.add (h : d.Sound N P) {line : Text} (hline : P line) : (d.add line).Sound N P := by
  refine ⟨h.heading, ?_, h.blocks, h.sections⟩
  intro l hl
  rcases List.mem_append.1 hl with hl | hl
  · exact h.block l hl
  · rw [List.mem_singleton.1 hl]
    exact hline

theorem Sound.settle (h : d.Sound N P) (hR : Regular N P) : d.settle.Sound N P := by
  refine ⟨h.close.heading, h.close.block, by simp [Draft.settle], ?_⟩
  rw [settle_prologue]
  exact Prologue.isBlock_appendAll hR h.sections h.close.blocks

/-- **What a settled draft holds**: the lines of its prologue and the closed blocks behind them. -/
theorem Sound.find_settle (h : d.Sound N fun line => line.chomp = line) (key : Text) :
    d.settle.prologue.sections.find key =
      (blocksUnder key d.close.blocks).foldl extend (d.prologue.sections.find key) := by
  have hheld : ∀ line ∈ d.prologue.sections.find key, line.chomp = line := by
    intro line hline
    exact (h.sections _ (Sections.mem_entries_of_find (List.ne_nil_of_mem hline))).2.2 line hline
  rw [settle_prologue, Prologue.find_appendAll_of_chomp hheld fun b hb => (h.close.blocks b hb).2.2]

/-- Sound drafts are sound for a weaker property of names. -/
theorem Sound.mono {M : Text → Prop} (h : d.Sound N P) (hM : ∀ name, N name → M name) :
    d.Sound M P := by
  have hblock : ∀ b, IsBlock N P b → IsBlock M P b := fun b hb => ⟨hM b.1 hb.1, hb.2⟩
  exact ⟨fun name hname => hM name (h.heading name hname), h.block,
    fun b hb => hblock b (h.blocks b hb), fun e he => hblock e (h.sections e he)⟩

/-- Sound drafts are sound for a weaker property of lines. -/
theorem Sound.mono_line {Q : Text → Prop} (h : d.Sound N P) (hQ : ∀ line, P line → Q line) :
    d.Sound N Q := by
  have hblock : ∀ b, IsBlock N P b → IsBlock N Q b := fun b hb =>
    ⟨hb.1, hb.2.1, fun line hline => hQ line (hb.2.2 line hline)⟩
  exact ⟨h.heading, fun line hline => hQ line (h.block line hline),
    fun b hb => hblock b (h.blocks b hb), fun e he => hblock e (h.sections e he)⟩

end Draft

end

end SourcePrologue

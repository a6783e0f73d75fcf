import SourcePrologue.Proofs.Prologue.Reread

/-!
# Echoes

An **echo** of a prologue holds what the prologue writes. Writing is a fixed point of it:

* **`Echo.outcome`** — what an echo writes under a name is what it holds there: nothing is closed
  twice, no default comes in that has not been written before, and no section is shadowed anew;
* **`Echo.order`** — the order is the same, because the same other names are populated and the
  same prologues document ADAM tasks;
* **`Echo.markedLines`** — so the lines between the comments around it are the same.
-/

namespace SourcePrologue

namespace Prologue

open Standard Body

variable {p : Prologue} {name : Text}

/-! ### What an echo writes -/

/-- A prologue `q` that holds what `p` writes and asks for no defaults that `p` does not ask for. -/
structure Echo (p q : Prologue) : Prop where
  commentChar : q.commentChar = p.commentChar
  find : ∀ name, q.sections.find name = (p.outcome name).map Text.orEmpty
  defaults : q.writeDefaults = true → p.writeDefaults = true

theorem echo_reread (hp : p.Legible) {yes : Bool} (h : yes = true → p.writeDefaults = true) :
    Echo p { p.reread with writeDefaults := yes } :=
  ⟨p.commentChar_reread, find_reread hp, h⟩

theorem trimBlankEdges_outcome (p : Prologue) (name : Text) :
    trimBlankEdges ((p.outcome name).map Text.orEmpty) = (p.outcome name).map Text.orEmpty := by
  by_cases hne : p.outcome name = []
  · rw [hne]
    rfl
  · exact trimBlankEdges_of_trimmed (trimmed_map_orEmpty (trimmed_outcome hne))

/-- The outcome of a section open to new entries ends with a placeholder. -/
theorem outcome_last (h : p.outcome name ≠ []) :
    terminators.lookup (slotOf name) = none ∨
      ∃ last, (p.outcome name).getLast? = some last ∧ isPlaceholder last = true := by
  rcases outcome_cases h with ⟨-, -, houtcome⟩ | ⟨line, hline, -, -, -, houtcome⟩
  · rw [houtcome]
    exact closed_cases (slotOf name) _
  · rw [houtcome]
    exact Or.inr ⟨line, rfl, (stock_spec _ (mem_stock_of_lookup_defaults hline)).1⟩

/-- **Nothing is closed twice.** -/
theorem closed_outcome (h : p.outcome name ≠ []) :
    closed (slotOf name) ((p.outcome name).map Text.orEmpty) =
      (p.outcome name).map Text.orEmpty := by
  rcases outcome_last h with hnone | ⟨last, hlast, hplaceholder⟩
  · rw [closed, hnone]
  · have hkept := Text.orEmpty_of_not_isBlank (isBlank_of_isPlaceholder hplaceholder)
    have hlast' : ((p.outcome name).map Text.orEmpty).getLast? = some last := by
      rw [List.getLast?_map, hlast, Option.map_some, hkept]
    exact closed_of_placeholder hlast' hplaceholder

/-- Nothing is written under the second spelling of a section that is written. -/
theorem outcome_second (hne : slotOf name ≠ name) (h : p.outcome (slotOf name) ≠ []) :
    p.outcome name = [] := by
  rcases slotOf_cases name with ⟨hslot, -⟩ | ⟨hlookup, -, hdefault⟩
  · exact absurd hslot hne
  · by_cases hhas : p.sections.has (slotOf name) = true
    · rw [outcome, if_pos ⟨hne, hhas⟩]
    · -- then the default is written, for which the second spelling has to be empty
      have hfind : p.sections.find (slotOf name) = [] := by
        simpa [Sections.has_eq_false_iff] using hhas
      rcases outcome_cases h with ⟨-, hls, -⟩ | ⟨line, -, -, -, hopen, -⟩
      · exact absurd hfind (ne_nil_of_trimBlankEdges hls)
      · have hempty : trimBlankEdges (p.sections.find name) = [] := by
          rw [leavesOpen, hlookup] at hopen
          simpa [hhas] using hopen
        simp [outcome, hempty, hdefault, hhas]

variable {q : Prologue}

/-- **No default comes in** under a name under which nothing has been written. -/
theorem Echo.no_default (h : Echo p q) (hempty : p.outcome name = [])
    (hasked : q.writeDefaults = true) (hopen : q.leavesOpen name = true) :
    Standard.defaults.lookup name = none := by
  by_contra hdefault
  obtain ⟨line, hline⟩ := Option.ne_none_iff_exists'.1 hdefault
  have hslot := slotOf_of_mem_written (mem_written_of_lookup_defaults hline)
  have hfind : trimBlankEdges (p.sections.find name) = [] := by
    by_contra hls
    rw [outcome_of_filled (Or.inl hslot) hls] at hempty
    exact closed_ne_nil hls hempty
  -- nothing is written, so the second spelling keeps the default away, and does so in the echo
  have hclosed : p.leavesOpen name = false := by
    by_contra hopen
    rw [Bool.not_eq_false] at hopen
    rw [outcome_of_default hline hfind (h.defaults hasked) hopen] at hempty
    exact List.cons_ne_nil _ _ hempty
  rw [leavesOpen] at hclosed hopen
  cases hlookup : aliases.lookup name with
  | none => simp [hlookup] at hclosed
  | some second =>
    have hhas : p.sections.has name = false ∧ trimBlankEdges (p.sections.find second) ≠ [] := by
      simpa [hlookup] using hclosed
    have hsecond : p.outcome second ≠ [] := by
      have hback := (spec_of_lookup hlookup).2.2.1
      rw [outcome_of_filled (Or.inr (by rw [hback]; exact hhas.1)) hhas.2]
      exact closed_ne_nil hhas.2
    have hfind : q.sections.find name = [] := by
      rw [h.find, hempty]
      rfl
    rw [hlookup, Option.all_some, h.find second, trimBlankEdges_outcome,
      Sections.has_eq_false_iff.2 hfind] at hopen
    simp [hsecond] at hopen

/-- **What an echo writes under a name is what it holds there.** -/
theorem Echo.outcome (h : Echo p q) (name : Text) :
    q.outcome name = (p.outcome name).map Text.orEmpty := by
  have hheld : trimBlankEdges (q.sections.find name) = (p.outcome name).map Text.orEmpty := by
    rw [h.find, trimBlankEdges_outcome]
  rw [Prologue.outcome, hheld]
  by_cases hshadowed : slotOf name ≠ name ∧ q.sections.has (slotOf name) = true
  · have hwritten : p.outcome (slotOf name) ≠ [] := by
      have hhas := Sections.has_iff.1 hshadowed.2
      rw [h.find] at hhas
      simpa using hhas
    rw [if_pos hshadowed, outcome_second hshadowed.1 hwritten]
    rfl
  · rw [if_neg hshadowed]
    by_cases hempty : p.outcome name = []
    · have hnone : ¬(q.writeDefaults = true ∧ q.leavesOpen name = true) ∨
          Standard.defaults.lookup name = none := by
        by_cases hasked : q.writeDefaults = true ∧ q.leavesOpen name = true
        · exact Or.inr (h.no_default hempty hasked.1 hasked.2)
        · exact Or.inl hasked
      rw [hempty]
      rcases hnone with hnone | hnone
      · simp [hnone]
      · simp [hnone]
    · rw [if_pos (by simpa using hempty)]
      exact closed_outcome hempty

/-! ### The order of an echo -/

theorem content_of_isLabel (p : Prologue) (h : SectionName.IsLabel name) :
    p.content name = p.sections.find name := by
  rw [content, h.canonical]

theorem Echo.otherNames (h : Echo p q) (hp : p.Legible) : q.otherNames = p.otherNames := by
  refine Text.eq_of_mem_iff (otherNames_pairwise q) (otherNames_pairwise p) fun name => ?_
  rw [mem_otherNames_iff, mem_otherNames_iff, h.find]
  constructor
  · intro hname
    exact ⟨(outcome_other hname.2 (hp.filled name)).1 (by simpa using hname.1), hname.2⟩
  · intro hname
    exact ⟨by simpa using (outcome_other hname.2 (hp.filled name)).2 hname.1, hname.2⟩

/-- Blank lines at the edges do not make a prologue the documentation of an ADAM task. -/
theorem any_adam_trimBlankEdges (ls : List Text) :
    (trimBlankEdges ls).any (Text.occursIn "ADAM") = ls.any (Text.occursIn "ADAM") := by
  have hadam : Text.isBlank "ADAM" = false := by decide
  rw [Bool.eq_iff_iff, List.any_eq_true, List.any_eq_true]
  constructor
  · rintro ⟨line, hline, hoccurs⟩
    exact ⟨line, mem_of_mem_trimBlankEdges hline, hoccurs⟩
  · rintro ⟨line, hline, hoccurs⟩
    exact ⟨line, mem_trimBlankEdges hline (Text.isBlank_of_occursIn hadam hoccurs), hoccurs⟩

/-- Nor do blank lines between them. -/
theorem any_adam_outcome (ls : List Text) :
    ((trimBlankEdges ls).map Text.orEmpty).any (Text.occursIn "ADAM") =
      ls.any (Text.occursIn "ADAM") := by
  have hadam : Text.isBlank "ADAM" = false := by decide
  have hline : ∀ line : Text, Text.occursIn "ADAM" line.orEmpty = Text.occursIn "ADAM" line := by
    intro line
    by_cases hblank : line.isBlank = true
    · have hnone : Text.occursIn "ADAM" line = false := by
        by_contra hoccurs
        rw [Bool.not_eq_false] at hoccurs
        rw [Text.isBlank_of_occursIn hadam hoccurs] at hblank
        exact Bool.noConfusion hblank
      rw [Text.orEmpty, if_pos hblank, hnone]
      rfl
    · rw [Text.orEmpty_of_not_isBlank (by simpa using hblank)]
  rw [List.any_map, ← any_adam_trimBlankEdges]
  exact List.any_congr rfl hline

theorem Echo.isAdamTask (h : Echo p q) (hp : p.Legible) : q.isAdamTask = p.isAdamTask := by
  have hparameters : SectionName.IsLabel "ADAM Parameters" := isLabel_of_mem_written (by decide)
  have hmodule : SectionName.IsLabel "Type of Module" := isLabel_of_mem_written (by decide)
  have hplain : ∀ name ∈ [Text.ofString "ADAM Parameters", Text.ofString "Type of Module"],
      slotOf name = name ∧ terminators.lookup name = none ∧
        Standard.defaults.lookup name = none := by decide
  obtain ⟨hslot, hterminator, hdefault⟩ := hplain "ADAM Parameters" (by simp)
  obtain ⟨hslot', hterminator', hdefault'⟩ := hplain "Type of Module" (by simp)
  have hempty : (q.content "ADAM Parameters").isEmpty = (p.content "ADAM Parameters").isEmpty := by
    rw [content_of_isLabel q hparameters, content_of_isLabel p hparameters, h.find,
      outcome_of_plain hslot hterminator hdefault, Bool.eq_iff_iff, List.isEmpty_iff,
      List.isEmpty_iff, List.map_eq_nil_iff]
    constructor
    · intro htrim
      by_contra hfind
      exact hp.filled _ hfind htrim
    · intro hfind
      rw [hfind]
      rfl
  rw [Prologue.isAdamTask, Prologue.isAdamTask, hempty, content_of_isLabel q hmodule,
    content_of_isLabel p hmodule, h.find, outcome_of_plain hslot' hterminator' hdefault',
    any_adam_outcome]

theorem Echo.order (h : Echo p q) (hp : p.Legible) : q.order = p.order := by
  rw [order_eq, order_eq, h.isAdamTask hp, h.otherNames hp]

/-! ### The lines of an echo -/

theorem Echo.labelled (h : Echo p q) (hp : p.Legible) : q.Labelled := by
  intro name hname
  rw [mem_sectionNames_iff, h.find] at hname
  exact isLabel_of_outcome hp.labelled (by simpa using hname)

theorem Echo.blocks (h : Echo p q) (hp : p.Legible) :
    q.blocks = p.blocks.map fun b => (b.1, b.2.map Text.orEmpty) := by
  rw [Prologue.blocks, Prologue.blocks, h.order hp, List.map_filterMap]
  refine List.filterMap_congr fun name hname => Option.ext fun b => ?_
  have hname' : name ∈ q.order := by rwa [h.order hp]
  rw [written?_eq_some_iff (h.labelled hp).isCanonical hname', h.outcome, Option.map_eq_some_iff]
  constructor
  · intro hb
    obtain ⟨hslot, houtcome, hne⟩ := hb
    have hne' : p.outcome b.1 ≠ [] := by
      rw [← houtcome] at hne
      simpa using hne
    exact ⟨(b.1, p.outcome b.1), (written?_eq_some_iff hp.labelled.isCanonical hname).2 ⟨hslot, rfl, hne'⟩,
      by rw [houtcome]⟩
  · intro hb
    obtain ⟨c, hc, rfl⟩ := hb
    obtain ⟨hslot, houtcome, hne⟩ := (written?_eq_some_iff hp.labelled.isCanonical hname).1 hc
    exact ⟨hslot, by rw [houtcome], by simpa using hne⟩

/-- **An echo is written in the same lines.** -/
theorem Echo.markedLines (h : Echo p q) (hp : p.Legible) : q.markedLines = p.markedLines := by
  have hsections : (q.blocks.flatMap fun b => q.writeSection b.1 b.2) =
      p.blocks.flatMap fun b => p.writeSection b.1 b.2 := by
    rw [h.blocks hp, List.flatMap_map]
    congr 1
    funext b
    exact writeSection_orEmpty h.commentChar b.1 b.2
  rw [Prologue.markedLines, Prologue.markedLines, hsections, h.commentChar]

end Prologue

end SourcePrologue

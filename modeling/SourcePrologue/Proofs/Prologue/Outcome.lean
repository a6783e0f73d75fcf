import SourcePrologue.Proofs.Prologue.Order

/-!
# What is written of a prologue

`Prologue.outcome` says section by section what stands under a name when a prologue is written,
without reference to the order of writing:

* nothing under a second spelling whose first one is populated;
* else the lines of the section without its blank edges, closed by a placeholder if the section is
  open to new entries (`Standard.closed`);
* else, when defaults are asked for, the default of the section, unless its second spelling has
  something to be written.

**`Prologue.mem_blocks_iff`** — writing in order writes exactly the outcomes that are not empty, and
**`Prologue.blocks_nodup`** — each of them once.
-/

namespace SourcePrologue

/-! ### Spellings -/

namespace Standard

open Body

/-- The name at whose place a section is written: the one that it is a second spelling of, or its
own. -/
def slotOf (name : Text) : Text := ((aliases.find? fun e => e.2 = name).map (·.1)).getD name

/-- What there is to know about the second spellings. -/
theorem aliases_spec : ∀ e ∈ aliases, aliases.lookup e.1 = some e.2 ∧ e.1 ∈ written ∧
    SectionName.canonical e.2 = e.2 ∧ slotOf e.2 = e.1 ∧ e.2 ∉ written ∧
    defaults.lookup e.2 = none := by decide +kernel

theorem spec_of_lookup {name second : Text} (h : aliases.lookup name = some second) :
    name ∈ written ∧ SectionName.canonical second = second ∧ slotOf second = name ∧
      name ≠ second := by
  obtain ⟨-, hwritten, hcanonical, hslot, hsecond, -⟩ := aliases_spec _ (mem_of_lookup h)
  exact ⟨hwritten, hcanonical, hslot, fun heq => hsecond (heq ▸ hwritten)⟩

theorem slotOf_cases (name : Text) :
    (slotOf name = name ∧ ∀ e ∈ aliases, e.2 ≠ name) ∨
      (aliases.lookup (slotOf name) = some name ∧ slotOf name ≠ name ∧
        defaults.lookup name = none) := by
  cases h : aliases.find? fun e => e.2 = name with
  | none =>
    refine Or.inl ⟨by rw [slotOf, h]; rfl, ?_⟩
    intro e he hname
    exact absurd hname (by simpa using List.find?_eq_none.1 h e he)
  | some e =>
    have hname : e.2 = name := by simpa using List.find?_some h
    obtain ⟨hlookup, hwritten, -, hslot, hsecond, hdefault⟩ :=
      aliases_spec e (List.mem_of_find?_eq_some h)
    rw [hname] at hlookup hslot hsecond hdefault
    rw [hslot]
    exact Or.inr ⟨hlookup, fun heq => hsecond (heq ▸ hwritten), hdefault⟩

theorem slotOf_of_mem_written {name : Text} (h : name ∈ written) : slotOf name = name := by
  rcases slotOf_cases name with ⟨hslot, -⟩ | ⟨hlookup, -, -⟩
  · exact hslot
  · exact absurd h (aliases_spec _ (mem_of_lookup hlookup)).2.2.2.2.1

theorem mem_written_of_lookup_defaults {name line : Text} (h : defaults.lookup name = some line) :
    name ∈ written := by
  have hall : ∀ e ∈ defaults, e.1 ∈ written := by decide +kernel
  exact hall _ (mem_of_lookup h)

/-- Names other than the standard ones are written at their own places. -/
theorem slotOf_of_notMem_names {name : Text} (h : name ∉ names) : slotOf name = name := by
  rcases slotOf_cases name with ⟨hslot, -⟩ | ⟨hlookup, -, -⟩
  · exact hslot
  · exact absurd (mem_names_iff.2 (Or.inr ⟨_, mem_of_lookup hlookup, rfl⟩)) h

/-- Lines closed by the placeholder of their section, if it has one and they do not end with a
placeholder already. -/
def closed (slot : Text) (ls : List Text) : List Text :=
  match terminators.lookup slot with
  | some terminator => if ls.getLast?.any isPlaceholder then ls else ls ++ [terminator]
  | none => ls

theorem closed_ne_nil {slot : Text} {ls : List Text} (h : ls ≠ []) : closed slot ls ≠ [] := by
  rw [closed]
  split
  · split
    · exact h
    · simp
  · exact h

/-- The lines that are written without having been stored. -/
def stock : List Text := terminators.map (·.2) ++ defaults.map (·.2)

theorem stock_spec : ∀ line ∈ stock, isPlaceholder line = true ∧ line.isBlank = false ∧
    Text.newline ∉ line ∧ Text.carriageReturn ∉ line := by decide +kernel

theorem lineEnd_notMem_stock : ∀ d ∈ Unicode.gaps, d ≠ ' ' → ∀ line ∈ stock, .char d ∉ line :=
  Unicode.forall_mem_gaps.2 ⟨fun h => absurd rfl h, fun _ line hline => (stock_spec line hline).2.2.1,
    fun _ line hline => (stock_spec line hline).2.2.2⟩

theorem mem_stock_of_lookup_terminators {name line : Text}
    (h : terminators.lookup name = some line) : line ∈ stock :=
  List.mem_append_left _ (List.mem_map.2 ⟨_, mem_of_lookup h, rfl⟩)

theorem mem_stock_of_lookup_defaults {name line : Text} (h : defaults.lookup name = some line) :
    line ∈ stock :=
  List.mem_append_right _ (List.mem_map.2 ⟨_, mem_of_lookup h, rfl⟩)

theorem mem_closed {slot line : Text} {ls : List Text} (h : line ∈ closed slot ls) :
    line ∈ ls ∨ line ∈ stock := by
  rw [closed] at h
  split at h
  · next terminator hlookup =>
    split at h
    · exact Or.inl h
    · rcases List.mem_append.1 h with h | h
      · exact Or.inl h
      · rw [List.mem_singleton.1 h]
        exact Or.inr (mem_stock_of_lookup_terminators hlookup)
  · exact Or.inl h

theorem trimmed_closed {slot : Text} {ls : List Text} (h : Trimmed ls) :
    Trimmed (closed slot ls) := by
  rw [closed]
  split
  · next terminator hlookup =>
    split
    · exact h
    · have hblank := (stock_spec _ (mem_stock_of_lookup_terminators hlookup)).2.1
      obtain ⟨⟨a, ha, hab⟩, -⟩ := h
      refine ⟨⟨a, ?_, hab⟩, terminator, Text.getLast?_append_of_getLast? rfl, hblank⟩
      rw [List.head?_append, ha]
      rfl
  · exact h

/-- Lines that end with a placeholder are closed as they stand. -/
theorem closed_of_placeholder {slot last : Text} {ls : List Text} (h : ls.getLast? = some last)
    (hlast : isPlaceholder last = true) : closed slot ls = ls := by
  rw [closed, h]
  cases terminators.lookup slot with
  | none => rfl
  | some terminator => exact if_pos hlast

/-- Closed lines end with a placeholder if their section has one. -/
theorem closed_cases (slot : Text) (ls : List Text) :
    terminators.lookup slot = none ∨
      ∃ last, (closed slot ls).getLast? = some last ∧ isPlaceholder last = true := by
  rw [closed]
  cases hlookup : terminators.lookup slot with
  | none => exact Or.inl rfl
  | some terminator =>
    refine Or.inr ?_
    have hstock := (stock_spec _ (mem_stock_of_lookup_terminators hlookup)).1
    by_cases hlast : ls.getLast?.any isPlaceholder = true
    · obtain ⟨last, hlast, hplaceholder⟩ := (Option.any_eq_true _ _).1 hlast
      exact ⟨last, by simp [hlast, hplaceholder], hplaceholder⟩
    · exact ⟨terminator, by simp [hlast], hstock⟩

end Standard

namespace Prologue

open Standard Body

/-! ### Names and what they resolve to -/

theorem slotOf_of_mem_order {p : Prologue} {name : Text} (h : name ∈ p.order) :
    slotOf name = name := by
  rcases mem_order_iff.1 h with h | h
  · exact slotOf_of_mem_written h
  · exact slotOf_of_notMem_names (mem_otherNames_iff.1 h).2

theorem canonical_of_mem_order {p : Prologue} (hp : p.IsCanonical) {name : Text}
    (h : name ∈ p.order) : SectionName.canonical name = name := by
  rcases mem_order_iff.1 h with h | h
  · exact (isLabel_of_mem_written h).canonical
  · exact hp name (mem_sectionNames_iff.2 (mem_otherNames_iff.1 h).1)

variable {p : Prologue} {name : Text}

theorem resolved_of_has (hc : SectionName.canonical name = name)
    (h : p.sections.has name = true) : p.resolved name = (name, p.sections.find name) := by
  rw [resolved, resolve?, hc, if_pos h]
  show (name, p.content name) = _
  rw [content, hc]

theorem resolved_of_second (hc : SectionName.canonical name = name)
    (h : p.sections.has name = false) {second : Text} (hs : aliases.lookup name = some second)
    (hsecond : p.sections.has second = true) :
    p.resolved name = (second, p.sections.find second) := by
  have hresolve : p.resolve? name = some second := by
    rw [resolve?, hc, if_neg (by simp [h]), hs, Option.filter_some, if_pos hsecond]
  rw [resolved, hresolve]
  show (second, p.content second) = _
  rw [content, (spec_of_lookup hs).2.1]

theorem resolved_of_lacks (hc : SectionName.canonical name = name)
    (h : p.sections.has name = false)
    (hs : ∀ second, aliases.lookup name = some second → p.sections.has second = false) :
    p.resolved name = (name, []) := by
  have hresolve : p.resolve? name = none := by
    rw [resolve?, hc, if_neg (by simp [h])]
    cases hl : aliases.lookup name with
    | none => rfl
    | some second => rw [Option.filter_some, if_neg (by simp [hs second hl])]
  rw [resolved, hresolve]
  show (SectionName.canonical name, []) = _
  rw [hc]

/-- What a name resolves to: itself, its second spelling, or nothing. -/
theorem resolved_cases (p : Prologue) (hc : SectionName.canonical name = name) :
    (p.sections.has name = true ∧ p.resolved name = (name, p.sections.find name)) ∨
      (∃ second, aliases.lookup name = some second ∧ p.sections.has name = false ∧
        p.resolved name = (second, p.sections.find second)) ∨
      (p.sections.has name = false ∧ p.resolved name = (name, []) ∧
        ∀ second, aliases.lookup name = some second → p.sections.find second = []) := by
  by_cases hhas : p.sections.has name = true
  · exact Or.inl ⟨hhas, resolved_of_has hc hhas⟩
  · rw [Bool.not_eq_true] at hhas
    by_cases hsecond : ∃ second, aliases.lookup name = some second ∧ p.sections.has second = true
    · obtain ⟨second, hlookup, hsecond⟩ := hsecond
      exact Or.inr (Or.inl ⟨second, hlookup, hhas, resolved_of_second hc hhas hlookup hsecond⟩)
    · have hlacks : ∀ second, aliases.lookup name = some second →
          p.sections.has second = false := by
        intro second hlookup
        by_contra hpresent
        rw [Bool.not_eq_false] at hpresent
        exact hsecond ⟨second, hlookup, hpresent⟩
      refine Or.inr (Or.inr ⟨hhas, resolved_of_lacks hc hhas hlacks, ?_⟩)
      intro second hlookup
      exact Sections.has_eq_false_iff.1 (hlacks second hlookup)

theorem written?_of_ne_nil (h : trimBlankEdges (p.resolved name).2 ≠ []) :
    p.written? name =
      some ((p.resolved name).1, closed name (trimBlankEdges (p.resolved name).2)) := by
  have hlast := List.getLast?_eq_some_getLast h
  rw [closed, hlast]
  unfold written?
  simp only [hlast]
  cases terminators.lookup name with
  | none => rfl
  | some terminator => rfl

theorem written?_of_eq_nil (h : trimBlankEdges (p.resolved name).2 = []) :
    p.written? name =
      if p.writeDefaults then (defaults.lookup name).map fun line => (name, [line]) else none := by
  unfold written?
  simp only [h]
  rfl

/-- What is written for a name: what it resolves to, or its default. -/
theorem written?_cases {b : Text × List Text} (h : p.written? name = some b) :
    (b.1 = (p.resolved name).1 ∧ b.2 = closed name (trimBlankEdges (p.resolved name).2)) ∨
      ∃ line, defaults.lookup name = some line ∧ b = (name, [line]) := by
  by_cases hls : trimBlankEdges (p.resolved name).2 = []
  · rw [written?_of_eq_nil hls] at h
    split at h
    · obtain ⟨line, hline, hb⟩ := Option.map_eq_some_iff.1 h
      exact Or.inr ⟨line, hline, hb.symm⟩
    · simp at h
  · rw [written?_of_ne_nil hls, Option.some.injEq] at h
    rw [← h]
    exact Or.inl ⟨rfl, rfl⟩

/-- A name resolves to a canonical name and to lines of the prologue. -/
theorem resolved_spec (p : Prologue) (name : Text) :
    (∃ key, (p.resolved name).1 = SectionName.canonical key) ∧
      ∀ line ∈ (p.resolved name).2, ∃ key, line ∈ p.sections.find key := by
  rw [resolved]
  cases hresolve : p.resolve? name with
  | none => exact ⟨⟨name, rfl⟩, by simp⟩
  | some found =>
    refine ⟨?_, fun line hline => ⟨_, hline⟩⟩
    rw [resolve?] at hresolve
    split at hresolve
    · exact ⟨name, (Option.some.inj hresolve).symm⟩
    · obtain ⟨hlookup, -⟩ := Option.filter_eq_some_iff.1 hresolve
      exact ⟨found, (spec_of_lookup hlookup).2.1.symm⟩

/-! ### Outcomes -/

/-- Whether the default of a section may be written in its place: nothing is written from its
second spelling. -/
def leavesOpen (p : Prologue) (name : Text) : Bool :=
  (aliases.lookup name).all fun second =>
    p.sections.has name || (trimBlankEdges (p.sections.find second)).isEmpty

/-- The lines under a name when the prologue is written, none if nothing is written under it. -/
def outcome (p : Prologue) (name : Text) : List Text :=
  let slot := slotOf name
  let ls := trimBlankEdges (p.sections.find name)
  if slot ≠ name ∧ p.sections.has slot = true then []
  else if ls ≠ [] then closed slot ls
  else if p.writeDefaults = true ∧ p.leavesOpen name = true then (defaults.lookup name).toList
  else []

/-- The sections that are written, in order, each with its lines. -/
def blocks (p : Prologue) : List (Text × List Text) := p.order.filterMap p.written?

/-- A default is written when what the name resolves to has no line for it. -/
theorem leavesOpen_iff (hc : SectionName.canonical name = name)
    (h : trimBlankEdges (p.sections.find name) = []) :
    p.leavesOpen name = true ↔ trimBlankEdges (p.resolved name).2 = [] := by
  rw [leavesOpen, Option.all_eq_true]
  rcases resolved_cases p hc with ⟨hhas, hresolved⟩ | ⟨second, hlookup, hhas, hresolved⟩ |
    ⟨hhas, hresolved, hlacks⟩
  · simp [hresolved, hhas, h]
  · simp [hresolved, hhas, hlookup]
  · have hall : ∀ second, aliases.lookup name = some second →
        (p.sections.has name || (trimBlankEdges (p.sections.find second)).isEmpty) = true := by
      intro second hlookup
      rw [hlacks second hlookup]
      simp
    rw [hresolved]
    exact ⟨fun _ => rfl, fun _ => hall⟩

/-- Where a name resolves to blank lines, its own section has none but blank ones. -/
theorem trimBlankEdges_find_of_resolved (hc : SectionName.canonical name = name)
    (h : trimBlankEdges (p.resolved name).2 = []) : trimBlankEdges (p.sections.find name) = [] := by
  rcases resolved_cases p hc with ⟨-, hresolved⟩ | ⟨-, -, hhas, -⟩ | ⟨hhas, -, -⟩
  · rwa [hresolved] at h
  · rw [Sections.has_eq_false_iff.1 hhas, trimBlankEdges_nil]
  · rw [Sections.has_eq_false_iff.1 hhas, trimBlankEdges_nil]

/-- A section with lines is written unless its first spelling is populated. -/
theorem outcome_of_filled (hplace : slotOf name = name ∨ p.sections.has (slotOf name) = false)
    (hls : trimBlankEdges (p.sections.find name) ≠ []) :
    p.outcome name = closed (slotOf name) (trimBlankEdges (p.sections.find name)) := by
  have hseen : ¬(slotOf name ≠ name ∧ p.sections.has (slotOf name) = true) := by
    intro hshadowed
    rcases hplace with hslot | hlacks
    · exact hshadowed.1 hslot
    · rw [hlacks] at hshadowed
      exact Bool.noConfusion hshadowed.2
  rw [outcome, if_neg hseen, if_pos hls]

/-- A default is written if it is asked for and its place is left open. -/
theorem outcome_of_default {line : Text} (hline : defaults.lookup name = some line)
    (hls : trimBlankEdges (p.sections.find name) = []) (hasked : p.writeDefaults = true)
    (hopen : p.leavesOpen name = true) : p.outcome name = [line] := by
  have hslot := slotOf_of_mem_written (mem_written_of_lookup_defaults hline)
  rw [outcome, hslot, hls, if_neg (by simp), if_neg (by simp), if_pos ⟨hasked, hopen⟩, hline]
  rfl

/-- **What can be written under a name**: the lines of its section, or its default. -/
theorem outcome_cases (h : p.outcome name ≠ []) :
    ((slotOf name = name ∨ p.sections.has (slotOf name) = false) ∧
      trimBlankEdges (p.sections.find name) ≠ [] ∧
      p.outcome name = closed (slotOf name) (trimBlankEdges (p.sections.find name))) ∨
    ∃ line, defaults.lookup name = some line ∧ trimBlankEdges (p.sections.find name) = [] ∧
      p.writeDefaults = true ∧ p.leavesOpen name = true ∧ p.outcome name = [line] := by
  have hplace : slotOf name = name ∨ p.sections.has (slotOf name) = false := by
    by_contra hshadowed
    rw [not_or, Bool.not_eq_false] at hshadowed
    exact h (by rw [outcome, if_pos hshadowed])
  by_cases hls : trimBlankEdges (p.sections.find name) = []
  · have hdefault : p.outcome name = if p.writeDefaults = true ∧ p.leavesOpen name = true then
        (defaults.lookup name).toList else [] := by
      rcases hplace with hslot | hlacks
      · simp [outcome, hslot, hls]
      · simp [outcome, hlacks, hls]
    rw [hdefault] at h
    split at h
    · next hasked =>
      cases hline : defaults.lookup name with
      | none => simp [hline] at h
      | some line =>
        exact Or.inr ⟨line, rfl, hls, hasked.1, hasked.2,
          outcome_of_default hline hls hasked.1 hasked.2⟩
    · exact absurd rfl h
  · exact Or.inl ⟨hplace, hls, outcome_of_filled hplace hls⟩

/-- What is written at a place is the outcome of the name that it is written under. -/
theorem outcome_of_written? (hc : SectionName.canonical name = name) (hslot : slotOf name = name)
    {b : Text × List Text} (h : p.written? name = some b) :
    slotOf b.1 = name ∧ p.outcome b.1 = b.2 ∧ b.2 ≠ [] := by
  by_cases hls : trimBlankEdges (p.resolved name).2 = []
  · -- a default, written under the name of the place
    rw [written?_of_eq_nil hls] at h
    split at h
    · next hasked =>
      obtain ⟨line, hline, hb⟩ := Option.map_eq_some_iff.1 h
      have hfind := trimBlankEdges_find_of_resolved hc hls
      have hopen := (leavesOpen_iff hc hfind).2 hls
      rw [← hb]
      exact ⟨hslot, outcome_of_default hline hfind hasked hopen, List.cons_ne_nil _ _⟩
    · simp at h
  · rw [written?_of_ne_nil hls, Option.some.injEq] at h
    rcases resolved_cases p hc with ⟨-, hresolved⟩ | ⟨second, hlookup, hlacks, hresolved⟩ |
      ⟨-, hresolved, -⟩
    · rw [hresolved] at h hls
      rw [← h]
      refine ⟨hslot, ?_, closed_ne_nil hls⟩
      rw [outcome_of_filled (Or.inl hslot) hls, hslot]
    · rw [hresolved] at h hls
      have hback := (spec_of_lookup hlookup).2.2.1
      rw [← h]
      refine ⟨hback, ?_, closed_ne_nil hls⟩
      rw [outcome_of_filled (Or.inr (by rw [hback]; exact hlacks)) hls, hback]
    · rw [hresolved] at hls
      exact absurd trimBlankEdges_nil hls

/-- A populated section is found at its place, unless its first spelling is populated. -/
theorem resolved_slotOf (hp : p.IsCanonical)
    (hplace : slotOf name = name ∨ p.sections.has (slotOf name) = false)
    (hfind : p.sections.find name ≠ []) :
    slotOf name ∈ p.order ∧ p.resolved (slotOf name) = (name, p.sections.find name) := by
  have hhas := Sections.has_iff.2 hfind
  rcases slotOf_cases name with ⟨hslot, hsecond⟩ | ⟨hlookup, hne, -⟩
  · have hc := hp name (mem_sectionNames_iff.2 hfind)
    rw [hslot]
    refine ⟨mem_order_iff.2 ?_, resolved_of_has hc hhas⟩
    by_cases hnames : name ∈ Standard.names
    · rcases mem_names_iff.1 hnames with hwritten | ⟨e, he, hname⟩
      · exact Or.inl hwritten
      · exact absurd hname (hsecond e he)
    · exact Or.inr (mem_otherNames_iff.2 ⟨hfind, hnames⟩)
  · have hwritten := (spec_of_lookup hlookup).1
    have hc := (isLabel_of_mem_written hwritten).canonical
    have hlacks := hplace.resolve_left hne
    exact ⟨mem_order_iff.2 (Or.inl hwritten), resolved_of_second hc hlacks hlookup hhas⟩

/-- Every outcome is written, at the place of its name. -/
theorem written?_of_outcome (hp : p.IsCanonical) (h : p.outcome name ≠ []) :
    slotOf name ∈ p.order ∧ p.written? (slotOf name) = some (name, p.outcome name) := by
  rcases outcome_cases h with ⟨hplace, hls, houtcome⟩ | ⟨line, hline, hls, hasked, hopen, houtcome⟩
  · obtain ⟨hmem, hresolved⟩ := resolved_slotOf hp hplace (ne_nil_of_trimBlankEdges hls)
    refine ⟨hmem, ?_⟩
    rw [written?_of_ne_nil (by rw [hresolved]; exact hls), hresolved, houtcome]
  · have hwritten := mem_written_of_lookup_defaults hline
    have hc := (isLabel_of_mem_written hwritten).canonical
    rw [slotOf_of_mem_written hwritten]
    refine ⟨mem_order_iff.2 (Or.inl hwritten), ?_⟩
    rw [written?_of_eq_nil ((leavesOpen_iff hc hls).1 hopen), if_pos hasked, hline, houtcome,
      Option.map_some]

/-- The lines of an outcome were stored, or they are placeholders. -/
theorem mem_outcome {line : Text} (h : line ∈ p.outcome name) :
    line ∈ p.sections.find name ∨ line ∈ stock := by
  rcases outcome_cases (List.ne_nil_of_mem h) with ⟨-, -, houtcome⟩ |
    ⟨default, hdefault, -, -, -, houtcome⟩
  · rw [houtcome] at h
    rcases mem_closed h with h | h
    · exact Or.inl (mem_of_mem_trimBlankEdges h)
    · exact Or.inr h
  · rw [houtcome, List.mem_singleton] at h
    rw [h]
    exact Or.inr (mem_stock_of_lookup_defaults hdefault)

/-- An outcome begins and ends with a line that is not blank. -/
theorem trimmed_outcome (h : p.outcome name ≠ []) : Trimmed (p.outcome name) := by
  rcases outcome_cases h with ⟨-, hls, houtcome⟩ | ⟨line, hline, -, -, -, houtcome⟩
  · rw [houtcome]
    exact trimmed_closed (trimmed_trimBlankEdges hls)
  · have hblank := (stock_spec _ (mem_stock_of_lookup_defaults hline)).2.1
    rw [houtcome]
    exact trimmed_singleton hblank

theorem isLabel_of_outcome (hp : p.Labelled) (h : p.outcome name ≠ []) :
    SectionName.IsLabel name := by
  rcases outcome_cases h with ⟨-, hls, -⟩ | ⟨line, hline, -, -, -, -⟩
  · exact hp name (mem_sectionNames_iff.2 (ne_nil_of_trimBlankEdges hls))
  · exact isLabel_of_mem_written (mem_written_of_lookup_defaults hline)

/-- A section with one spelling, no placeholder and no default is written as it is. -/
theorem outcome_of_plain (hslot : slotOf name = name) (hterminator : terminators.lookup name = none)
    (hdefault : defaults.lookup name = none) :
    p.outcome name = trimBlankEdges (p.sections.find name) := by
  rw [outcome, hslot, hdefault, closed, hterminator, if_neg (by simp)]
  show (if _ then trimBlankEdges (p.sections.find name) else if _ then [] else []) = _
  split
  · rfl
  · simp_all

/-- Other sections are written if they are populated. -/
theorem outcome_other (hname : name ∉ names)
    (hfilled : p.sections.find name ≠ [] → trimBlankEdges (p.sections.find name) ≠ []) :
    p.outcome name ≠ [] ↔ p.sections.find name ≠ [] := by
  have hwritten : name ∉ written := fun hmem => hname (written_subset_names name hmem)
  have hslot := slotOf_of_notMem_names hname
  have hdefault : defaults.lookup name = none := by
    by_contra hdefault
    obtain ⟨line, hline⟩ := Option.ne_none_iff_exists'.1 hdefault
    exact hwritten (mem_written_of_lookup_defaults hline)
  constructor
  · intro h hfind
    simp [outcome, hfind, hdefault] at h
  · intro hfind
    rw [outcome_of_filled (Or.inl hslot) (hfilled hfind)]
    exact closed_ne_nil (hfilled hfind)

theorem written?_eq_some_iff (hp : p.IsCanonical) (hname : name ∈ p.order) {b : Text × List Text} :
    p.written? name = some b ↔ slotOf b.1 = name ∧ p.outcome b.1 = b.2 ∧ b.2 ≠ [] := by
  constructor
  · exact outcome_of_written? (canonical_of_mem_order hp hname) (slotOf_of_mem_order hname)
  · intro h
    obtain ⟨hslot, houtcome, hne⟩ := h
    rw [← houtcome] at hne
    have hwritten := (written?_of_outcome hp hne).2
    rw [hslot, houtcome] at hwritten
    exact hwritten

/-- **Exactly the outcomes that are not empty are written.** -/
theorem mem_blocks_iff (hp : p.IsCanonical) {b : Text × List Text} :
    b ∈ p.blocks ↔ p.outcome b.1 = b.2 ∧ b.2 ≠ [] := by
  rw [blocks, List.mem_filterMap]
  constructor
  · intro h
    obtain ⟨name, hname, hb⟩ := h
    exact ((written?_eq_some_iff hp hname).1 hb).2
  · intro h
    have hne : p.outcome b.1 ≠ [] := by rw [h.1]; exact h.2
    have hmem := (written?_of_outcome hp hne).1
    exact ⟨slotOf b.1, hmem, (written?_eq_some_iff hp hmem).2 ⟨rfl, h⟩⟩

/-- **Each name is written once**: what is written under it tells its place in the order. -/
theorem blocks_nodup (hp : p.IsCanonical) : (p.blocks.map (·.1)).Nodup := by
  have hplace : ∀ {name b}, name ∈ p.order → p.written? name = some b → slotOf b.1 = name :=
    fun hname hb => ((written?_eq_some_iff hp hname).1 hb).1
  rw [List.Nodup, List.pairwise_map, blocks, List.pairwise_filterMap]
  refine (order_nodup p).imp_of_mem ?_
  intro name other hname hother hne b hb c hc hbc
  apply hne
  rw [← hplace hname hb, hbc, hplace hother hc]

end Prologue

end SourcePrologue

import SourcePrologue.Proofs.Prologue.Reread

/-!
# The layout of a written prologue

Which sections a written prologue has, where they stand and what they end with, section by section.

* **`Prologue.order_eq_catalogOrder`**, **`Prologue.order_of_isAdamTask`** — the written order is
  the one of the catalog, but that the arguments of an ADAM task come right before its description;
* **`Prologue.mem_blocks_cases`** — a section is written if it has something to show and no other
  spelling hides it, a default if it is asked for and there is nothing in its place;
* **`Prologue.blocks_writeDefaults`** — asking for defaults only adds defaults;
* **`Prologue.writes_each_section_once`** — all of this about the text.
-/

namespace SourcePrologue

namespace Standard

/-- The names that are written at a slot, of which the **other** names are given. -/
def Slot.fill (others : List Text) : Slot → List Text
  | named name => [name]
  | other => others

/-- The sections that are open to new entries, under all of their spellings. -/
def openEnded : List Text := ["Authors", "Author", "History", "Bugs"]

theorem lookup_terminators_of_mem_openEnded :
    ∀ name ∈ openEnded, terminators.lookup (slotOf name) ≠ none := by decide +kernel

end Standard

namespace Prologue

open Standard Body

/-- The names of the **catalog** in its order, with the other names of a prologue at their slot. -/
def catalogOrder (p : Prologue) : List Text := slots.flatMap (Slot.fill p.otherNames)

/-- A section whose lines are **hidden**: its name is the second spelling of a section that is
populated under its first spelling, too. -/
def IsHidden (p : Prologue) (name : Text) : Prop :=
  ∃ first, aliases.lookup first = some name ∧ p.sections.find first ≠ []

/-- A block that writes a **section**: the section has a line that is not blank and is not hidden,
and the block consists of its lines between the blank edges, closed by a placeholder where the
section is open to new entries. -/
structure WritesSection (p : Prologue) (b : Text × List Text) : Prop where
  filled : ∃ line ∈ p.sections.find b.1, line.isBlank = false
  shown : ¬p.IsHidden b.1
  lines : b.2 = closed (slotOf b.1) (trimBlankEdges (p.sections.find b.1))

/-- A block that writes a **default**: its name stands for no section, or for one whose lines are
all blank. -/
structure WritesDefault (p : Prologue) (b : Text × List Text) : Prop where
  vacant : ∀ line ∈ (p.resolved b.1).2, line.isBlank = true
  lines : ∃ line, defaults.lookup b.1 = some line ∧ b.2 = [line]

variable {p : Prologue} {name : Text}

/-! ### The order of the catalog -/

theorem catalogOrder_eq (p : Prologue) :
    p.catalogOrder = leading false ++ (p.otherNames ++ trailing) := by
  rw [catalogOrder]
  generalize p.otherNames = others
  rfl

theorem order_eq_catalogOrder (h : p.isAdamTask = false) : p.order = p.catalogOrder := by
  rw [order_eq, catalogOrder_eq, h]

/-- **The arguments of an ADAM task** come right before its description, and all other names stay
where they are. -/
theorem order_of_isAdamTask (h : p.isAdamTask = true) :
    [Text.ofString "Arguments", Text.ofString "Description"] <:+: p.order ∧
      p.order.filter (· ≠ Text.ofString "Arguments") =
        p.catalogOrder.filter (· ≠ Text.ofString "Arguments") := by
  have hadjacent : [Text.ofString "Arguments", Text.ofString "Description"] <:+: leading true := by
    decide +kernel
  have hkept : (leading true).filter (· ≠ Text.ofString "Arguments") =
      (leading false).filter (· ≠ Text.ofString "Arguments") := by decide +kernel
  rw [order_eq, catalogOrder_eq, h]
  refine ⟨hadjacent.trans (List.prefix_append _ _).isInfix, ?_⟩
  rw [List.filter_append, hkept, ← List.filter_append]

/-! ### The blocks -/

theorem isHidden_iff :
    p.IsHidden name ↔ slotOf name ≠ name ∧ p.sections.has (slotOf name) = true := by
  rw [Sections.has_iff]
  constructor
  · rintro ⟨first, hlookup, hfind⟩
    obtain ⟨-, -, hslot, hne⟩ := spec_of_lookup hlookup
    rw [hslot]
    exact ⟨hne, hfind⟩
  · rintro ⟨hne, hfind⟩
    rcases slotOf_cases name with ⟨hslot, -⟩ | ⟨hlookup, -, -⟩
    · exact absurd hslot hne
    · exact ⟨slotOf name, hlookup, hfind⟩

/-- **What is written**: sections and, where they are asked for, defaults. -/
theorem mem_blocks_cases (hp : p.IsCanonical) {b : Text × List Text} :
    b ∈ p.blocks ↔ p.WritesSection b ∨ p.writeDefaults = true ∧ p.WritesDefault b := by
  rw [mem_blocks_iff hp]
  constructor
  · rintro ⟨houtcome, hne⟩
    rw [← houtcome] at hne
    rcases outcome_cases hne with ⟨hplace, hls, hlines⟩ | ⟨line, hline, hls, hasked, hopen, hlines⟩
    · refine Or.inl ⟨trimBlankEdges_ne_nil_iff.1 hls, ?_, houtcome.symm.trans hlines⟩
      rw [isHidden_iff]
      rintro ⟨hslot, hhas⟩
      rw [hplace.resolve_left hslot] at hhas
      exact Bool.noConfusion hhas
    · have hc := (isLabel_of_mem_written (mem_written_of_lookup_defaults hline)).canonical
      have hvacant := trimBlankEdges_eq_nil_iff.1 ((leavesOpen_iff hc hls).1 hopen)
      exact Or.inr ⟨hasked, hvacant, line, hline, houtcome.symm.trans hlines⟩
  · rintro (hsection | ⟨hasked, hdefault⟩)
    · have hls := trimBlankEdges_ne_nil_iff.2 hsection.filled
      have hplace : slotOf b.1 = b.1 ∨ p.sections.has (slotOf b.1) = false := by
        by_contra hhidden
        rw [not_or, Bool.not_eq_false] at hhidden
        exact hsection.shown (isHidden_iff.2 hhidden)
      rw [outcome_of_filled hplace hls, ← hsection.lines]
      exact ⟨rfl, hsection.lines ▸ closed_ne_nil hls⟩
    · obtain ⟨line, hline, hlines⟩ := hdefault.lines
      have hc := (isLabel_of_mem_written (mem_written_of_lookup_defaults hline)).canonical
      have hvacant := trimBlankEdges_eq_nil_iff.2 hdefault.vacant
      have hls := trimBlankEdges_find_of_resolved hc hvacant
      rw [outcome_of_default hline hls hasked ((leavesOpen_iff hc hls).2 hvacant), hlines]
      exact ⟨rfl, List.cons_ne_nil _ _⟩

/-- The blocks stand in the written order, each at the place of its name. -/
theorem map_slotOf_blocks (hp : p.IsCanonical) :
    (p.blocks.map fun b => slotOf b.1) = p.order.filter fun name => (p.written? name).isSome := by
  rw [blocks, List.map_filterMap, ← List.filterMap_eq_filter]
  refine List.filterMap_congr fun name hname => ?_
  cases hb : p.written? name with
  | none => simp [Option.guard, hb]
  | some b =>
    rw [Option.map_some, ((written?_eq_some_iff hp hname).1 hb).1]
    simp [Option.guard, hb]

/-- Where more is found, the list of what is found is longer. -/
theorem filterMap_sublist {α β : Type} {f g : α → Option β}
    (h : ∀ a b, f a = some b → g a = some b) (l : List α) :
    (l.filterMap f).Sublist (l.filterMap g) := by
  induction l with
  | nil => exact List.Sublist.slnil
  | cons a l ih =>
    cases hf : f a with
    | none =>
      rw [List.filterMap_cons_none hf, List.filterMap_cons]
      exact ih.trans (by cases g a <;> simp)
    | some b =>
      rw [List.filterMap_cons_some hf, List.filterMap_cons_some (h a b hf)]
      exact ih.cons_cons b

/-- **Asking for defaults** takes nothing from the blocks and does not move them. -/
theorem blocks_writeDefaults (p : Prologue) :
    { p with writeDefaults := false }.blocks.Sublist { p with writeDefaults := true }.blocks := by
  refine filterMap_sublist (fun name b hb => ?_) p.order
  by_cases hls : trimBlankEdges (p.resolved name).2 = []
  · have hnone := written?_of_eq_nil (p := { p with writeDefaults := false }) hls
    exact absurd (hnone.symm.trans hb) (by simp)
  · have hkept := written?_of_ne_nil (p := { p with writeDefaults := false }) hls
    exact (written?_of_ne_nil (p := { p with writeDefaults := true }) hls).trans
      (hkept.symm.trans hb)

/-- **A block open to new entries** ends in a placeholder. -/
theorem placeholder_of_mem_blocks (hp : p.IsCanonical) {b : Text × List Text} (hb : b ∈ p.blocks)
    (hname : b.1 ∈ openEnded) :
    ∃ last, b.2.getLast? = some last ∧ isPlaceholder last = true := by
  rcases (mem_blocks_cases hp).1 hb with hsection | ⟨-, hdefault⟩
  · rw [hsection.lines]
    exact (closed_cases _ _).resolve_left (lookup_terminators_of_mem_openEnded b.1 hname)
  · obtain ⟨line, hline, hlines⟩ := hdefault.lines
    rw [hlines]
    exact ⟨line, rfl, (stock_spec line (mem_stock_of_lookup_defaults hline)).1⟩

/-- **Every section is written once**, in the order of the catalog. No name stands in the written
order twice, and it is the order of the catalog with the other populated names, ascending, at their
slot, but that the arguments of an ADAM task come right before its description. The text consists of
blocks between the two markers. They follow the order, an alias at the place of the name that it
stands for, and no two of them have one name. There is a block for each section with a line that is
not blank, unless it is hidden, and besides only defaults for what is vacant, if they are asked for.
Asking for them leaves the other blocks where they are. What is open to new entries ends in a
placeholder. -/
theorem writes_each_section_once (p : Prologue) (hp : p.IsCanonical) :
    p.order.Nodup ∧
    (p.otherNames.Pairwise (· < ·) ∧
      ∀ name, name ∈ p.otherNames ↔ p.sections.find name ≠ [] ∧ name ∉ Standard.names) ∧
    (p.isAdamTask = false → p.order = p.catalogOrder) ∧
    (p.isAdamTask = true →
      [Text.ofString "Arguments", Text.ofString "Description"] <:+: p.order ∧
      p.order.filter (· ≠ Text.ofString "Arguments") =
        p.catalogOrder.filter (· ≠ Text.ofString "Arguments")) ∧
    p.render = Text.unlines ((if p.opensComment then [Text.ofString "/*"] else []) ++
      ((p.commentChar ++ Text.ofChar '+') ::
        (p.blocks.flatMap fun b => p.writeSection b.1 b.2) ++ [p.commentChar ++ Text.ofChar '-']) ++
      (if p.closesComment then [Text.ofString "*/"] else [])) ∧
    (p.blocks.map fun b => slotOf b.1).Sublist p.order ∧
    (p.blocks.map (·.1)).Nodup ∧
    (∀ b, b ∈ p.blocks ↔ p.WritesSection b ∨ p.writeDefaults = true ∧ p.WritesDefault b) ∧
    { p with writeDefaults := false }.blocks.Sublist { p with writeDefaults := true }.blocks ∧
    ∀ b ∈ p.blocks, b.1 ∈ openEnded →
      ∃ last, b.2.getLast? = some last ∧ isPlaceholder last = true := by
  have hplaces : (p.blocks.map fun b => slotOf b.1).Sublist p.order := by
    rw [map_slotOf_blocks hp]
    exact List.filter_sublist
  exact ⟨p.order_nodup, ⟨p.otherNames_pairwise, fun name => mem_otherNames_iff⟩,
    order_eq_catalogOrder, order_of_isAdamTask, congrArg Text.unlines p.writtenLines_eq, hplaces,
    blocks_nodup hp, fun b => mem_blocks_cases hp, p.blocks_writeDefaults,
    fun b hb => placeholder_of_mem_blocks hp hb⟩

/-- The documentation of an ADAM task, with an author under both spellings. -/
def task : Prologue := ({ writeDefaults := true } : Prologue).appendAll [
  ("Workings", [Text.ofString "w"]), ("ADAM Parameters", [Text.ofString "P"]),
  ("Author", [Text.ofString "me"]), ("Authors", [Text.ofString "we"]),
  ("Description", [[], Text.ofString "d"]), ("Bugs", [[]]), ("License", [Text.ofString "GPL"])]

/-- The author is hidden, and a default stands for the bugs. -/
theorem writes_each_section_once_task : task.IsCanonical ∧ task.isAdamTask = true ∧
    [Text.ofString "Arguments", Text.ofString "Description"] <:+: task.order ∧
    (Text.ofString "Author", [Text.ofString "me"]) ∉ task.blocks ∧
    (Text.ofString "License", [Text.ofString "GPL"]) ∈ task.blocks ∧
    (Text.ofString "Bugs", [Text.ofString "\x7bnote_any_bugs_here\x7d"]) ∈ task.blocks := by
  have hcanonical : task.IsCanonical := by
    unfold IsCanonical
    decide +kernel
  obtain ⟨-, -, -, hadam, -, -, -, hblocks, -⟩ := writes_each_section_once task hcanonical
  have htask : task.isAdamTask = true := by decide +kernel
  refine ⟨hcanonical, htask, (hadam htask).1, ?_, ?_, ?_⟩
  · rw [hblocks]
    rintro (hsection | ⟨-, hdefault⟩)
    · exact hsection.shown ⟨"Authors", by decide +kernel, by decide +kernel⟩
    · obtain ⟨line, hline, -⟩ := hdefault.lines
      have hnone : defaults.lookup (Text.ofString "Author") = none := by decide +kernel
      exact absurd (hnone.symm.trans hline) (by simp)
  · rw [hblocks]
    refine Or.inl ⟨⟨Text.ofString "GPL", by decide +kernel, by decide +kernel⟩, ?_,
      by decide +kernel⟩
    rw [isHidden_iff]
    decide +kernel
  · rw [hblocks]
    exact Or.inr ⟨rfl, by decide +kernel, _, by decide +kernel, rfl⟩

end Prologue

end SourcePrologue

import SourcePrologue.Proofs.Prologue.Echo
import SourcePrologue.Proofs.Source.Scan

/-!
# Reading undoes writing

* **`Source.split_render_settled`** — a written file whose lines open nothing and whose prologues are
  legible is read back part by part;
* **`Source.split_render`** — the text of one prologue is that one prologue again: under every
  section that was written stand the lines that were written, and a second writing gives the same
  text.
-/

namespace SourcePrologue

namespace Prologue

/-- Labels, lines without line ends and a line that is not blank in every section are enough. -/
theorem legible_of_lines {p : Prologue}
    (hmarker : p.commentChar = Text.ofChar '*' ∨ p.commentChar = Text.ofChar '#')
    (hnames : p.Labelled)
    (hlines : ∀ e ∈ p.sections.entries, ∀ line ∈ e.2,
      Text.newline ∉ line ∧ Text.carriageReturn ∉ line)
    (hfilled : ∀ e ∈ p.sections.entries, ∃ line ∈ e.2, line.isBlank = false) : p.Legible := by
  refine ⟨?_, hnames, ?_, ?_⟩
  · rcases hmarker with hmarker | hmarker
    · exact ⟨.star, hmarker⟩
    · exact ⟨.hash, hmarker⟩
  · intro name line hline
    have hmem := Sections.mem_entries_of_find (List.ne_nil_of_mem hline)
    obtain ⟨hnewline, hreturn⟩ := hlines _ hmem line hline
    exact ⟨hnewline, Text.chomp_of_notMem hnewline hreturn⟩
  · intro name hfind htrim
    obtain ⟨line, hline, hblank⟩ := hfilled _ (Sections.mem_entries_of_find hfind)
    rw [Body.trimBlankEdges_eq_nil_iff.1 htrim line hline] at hblank
    exact Bool.noConfusion hblank

end Prologue

/-! ### Files of settled parts -/

/-- A part that is read back as such: a line that opens nothing, or a legible prologue. -/
def Item.Settled : Item → Prop
  | line text => Text.newline ∉ text ∧ text.chomp = text ∧ Reader.open? text = none
  | prologue p => p.Legible

/-- The parts that a part is **read back** as: a prologue without the lines of its C comment. -/
def Item.again : Item → List Item
  | line text => [.line text]
  | prologue p =>
    (if p.opensComment then [.line (Text.ofString "/*")] else []) ++ .prologue p.reread ::
      (if p.closesComment then [.line (Text.ofString "*/")] else [])

/-- The lines that a part is written in. -/
def Item.writtenLines : Item → List Text
  | line text => [text]
  | prologue p => p.writtenLines

namespace Source

theorem renderItem_eq (item : Item) : renderItem item = Text.unlines item.writtenLines := by
  cases item with
  | line text => simp [renderItem, Item.writtenLines, Text.unlines]
  | prologue p => rfl

theorem render_eq (parts : List Item) :
    render parts = Text.unlines (parts.flatMap Item.writtenLines) := by
  induction parts with
  | nil => rfl
  | cons item parts ih =>
    show renderItem item ++ render parts = _
    rw [ih, renderItem_eq, List.flatMap_cons, Text.unlines, Text.unlines, Text.unlines,
      List.flatMap_append]

theorem newline_notMem_writtenLines {item : Item} (h : item.Settled) :
    ∀ line ∈ item.writtenLines, Text.newline ∉ line := by
  cases item with
  | line text =>
    intro line hline
    rw [List.mem_singleton.1 hline]
    exact h.1
  | prologue p => exact Prologue.newline_notMem_writtenLines h

theorem splitFrom_settled {item : Item} (h : item.Settled) (ls : List Text) :
    splitFrom {} (item.writtenLines ++ ls) = item.again ++ splitFrom {} ls := by
  cases item with
  | line text =>
    obtain ⟨-, hchomp, hopen⟩ := h
    have hordinary : Reader.open? text.chomp = none := by rw [hchomp, hopen]
    show splitFrom {} (text :: ls) = _
    rw [splitFrom_ordinary hordinary, hchomp]
    rfl
  | prologue p => exact splitFrom_writtenLines h ls

/-- **A file of settled parts is read back part by part.** -/
theorem split_render_settled {parts : List Item} (h : ∀ item ∈ parts, item.Settled) :
    split (render parts).lines = parts.flatMap Item.again := by
  have hnewline : ∀ line ∈ parts.flatMap Item.writtenLines, Text.newline ∉ line := by
    intro line hline
    obtain ⟨item, hitem, hline⟩ := List.mem_flatMap.1 hline
    exact newline_notMem_writtenLines (h item hitem) line hline
  rw [render_eq, Text.lines_unlines hnewline, split]
  clear hnewline
  induction parts with
  | nil => rfl
  | cons item parts ih =>
    rw [List.flatMap_cons, splitFrom_settled (h item List.mem_cons_self),
      ih fun i hi => h i (List.mem_cons_of_mem item hi), List.flatMap_cons]

theorem mapPrologues_append (f : Prologue → Prologue) (ks ls : List Item) :
    mapPrologues f (ks ++ ls) = mapPrologues f ks ++ mapPrologues f ls :=
  List.map_append

theorem prologues_mapPrologues (f : Prologue → Prologue) (parts : List Item) :
    prologues (mapPrologues f parts) = (prologues parts).map f := by
  rw [prologues, prologues, mapPrologues, List.filterMap_map, List.map_filterMap]
  refine List.filterMap_congr fun item _ => ?_
  cases item <;> rfl

theorem render_append (ks ls : List Item) : render (ks ++ ls) = render ks ++ render ls :=
  List.flatMap_append

/-- What a prologue is read back as is written as the prologue was, whatever is done to it in
between, as long as it remains an echo without a C comment of its own. -/
theorem render_again {p : Prologue} (hp : p.Legible) {f : Prologue → Prologue}
    (hecho : Prologue.Echo p (f p.reread)) (hopens : (f p.reread).opensComment = false)
    (hcloses : (f p.reread).closesComment = false) :
    render (mapPrologues f (Item.again (.prologue p))) = p.render := by
  have hline : ∀ (yes : Bool) (text : Text),
      mapPrologues f (if yes then [.line text] else []) = if yes then [.line text] else [] := by
    intro yes text
    cases yes <;> rfl
  have htext : ∀ (yes : Bool) (text : Text), render (if yes then [.line text] else []) =
      Text.unlines (if yes then [text] else []) := by
    intro yes text
    cases yes <;> rfl
  have hprologue : (f p.reread).render = Text.unlines p.markedLines := by
    rw [Prologue.render, Prologue.writtenLines_eq, hecho.markedLines hp, hopens, hcloses]
    simp
  rw [Item.again, mapPrologues_append, hline, render_append, htext]
  show _ ++ ((f p.reread).render ++ render (mapPrologues f _)) = _
  rw [hprologue, hline, htext, Prologue.render, Prologue.writtenLines_eq]
  simp [Text.unlines]

/-! ### Written prologues -/

theorem echo_self {p : Prologue} (hp : p.Legible) : Prologue.Echo p p.reread := by
  refine ⟨p.commentChar_reread, Prologue.find_reread hp, ?_⟩
  rw [Prologue.reread_eq]
  exact fun h => Bool.noConfusion h

theorem mapPrologues_id (parts : List Item) : mapPrologues id parts = parts := by
  rw [mapPrologues]
  refine (List.map_congr_left fun item _ => ?_).trans (List.map_id parts)
  cases item <;> rfl

/-- **Reading undoes writing.** The lines of a written prologue give one prologue back, between the
lines of the C comment around it. It has the sections that were written and no other ones, each with
the lines that were written, of which the blank ones are empty now; `Prologue.outcome` tells which
sections and lines these are. Written again it is the same text. -/
theorem split_render (p : Prologue)
    (hmarker : p.commentChar = Text.ofChar '*' ∨ p.commentChar = Text.ofChar '#')
    (hnames : p.Labelled)
    (hlines : ∀ e ∈ p.sections.entries, ∀ line ∈ e.2,
      Text.newline ∉ line ∧ Text.carriageReturn ∉ line)
    (hfilled : ∀ e ∈ p.sections.entries, ∃ line ∈ e.2, line.isBlank = false) :
    ∃ q : Prologue,
      split p.render.lines =
        (if p.opensComment then [.line (Text.ofString "/*")] else []) ++ .prologue q ::
          (if p.closesComment then [.line (Text.ofString "*/")] else []) ∧
      q.commentChar = p.commentChar ∧ q.style = some .modern ∧
      (∀ b, b ∈ q.sections.entries ↔ ∃ c ∈ p.blocks, b = (c.1, c.2.map Text.orEmpty)) ∧
      (∀ name, q.sections.find name = (p.outcome name).map Text.orEmpty) ∧
      render (split p.render.lines) = p.render := by
  have hp := Prologue.legible_of_lines hmarker hnames hlines hfilled
  have hsettled : ∀ item ∈ [Item.prologue p], item.Settled := by
    intro item hitem
    rw [List.mem_singleton.1 hitem]
    exact hp
  have hrender : render [.prologue p] = p.render := List.append_nil _
  have hsplit : split p.render.lines = Item.again (.prologue p) := by
    rw [← hrender, split_render_settled hsettled]
    exact List.append_nil _
  have hagain : render (Item.again (.prologue p)) = p.render := by
    have hid := render_again (f := id) hp (echo_self hp) (by rw [Prologue.reread_eq]; rfl)
      (by rw [Prologue.reread_eq]; rfl)
    rwa [mapPrologues_id] at hid
  refine ⟨p.reread, hsplit, p.commentChar_reread, ?_, ?_, Prologue.find_reread hp, ?_⟩
  · rw [Prologue.reread_eq]
  · intro b
    exact Prologue.mem_entries_reread hp
  · rw [hsplit, hagain]

/-- A description with a blank line and a line that begins with a colon, defaults asked for. -/
theorem split_render_description :
    let p := ({ opensComment := true, writeDefaults := true } : Prologue).setContent "Description"
      ["Copies a file", " ", ": and a half"]
    (p.Labelled ∧ ∀ e ∈ p.sections.entries, ∃ line ∈ e.2, line.isBlank = false) ∧
      ∃ q : Prologue, split p.render.lines = [.line "/*", .prologue q] ∧
        q.sections.find "Description" = (["Copies a file", [], ": and a half"] : List Text) ∧
        q.sections.find "Bugs" = (["\x7bnote_any_bugs_here\x7d"] : List Text) := by
  intro p
  have hnames : p.Labelled := by
    show ∀ name ∈ p.sectionNames, SectionName.IsLabel name
    decide +kernel
  have hlines : ∀ e ∈ p.sections.entries, ∀ line ∈ e.2,
      Text.newline ∉ line ∧ Text.carriageReturn ∉ line := by decide +kernel
  have hfilled : ∀ e ∈ p.sections.entries, ∃ line ∈ e.2, line.isBlank = false := by decide +kernel
  obtain ⟨q, hsplit, -, -, -, hfind, -⟩ := split_render p (Or.inl rfl) hnames hlines hfilled
  refine ⟨⟨hnames, hfilled⟩, q, hsplit, ?_, ?_⟩
  · rw [hfind]
    decide +kernel
  · rw [hfind]
    decide +kernel

end Source

end SourcePrologue

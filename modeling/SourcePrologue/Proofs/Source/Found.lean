import SourcePrologue.Proofs.Source.Passed
import SourcePrologue.Source.Item

/-!
# What is found in a source

The parts that lines are taken apart into, when the names in headings are ASCII:

* **`Scanner.asciiHeadings`** — the headings meant, which are those that the reader of a prologue
  sees;
* **`Source.sound_splitFrom`** — every prologue found has a marker, labels and stored lines, and
  every ordinary line is free of line ends;
* **`Source.open?_of_all_modern`** — when all prologues found are modern, no ordinary line is a
  start line.
-/

namespace SourcePrologue

/-! ### Scanners -/

namespace Scanner

/-- Whether the **names in headings** are ASCII, in lines that a scanner has yet to see. -/
def asciiHeadings (s : Scanner) : List Text → Bool
  | [] => true
  | line :: ls =>
    (s.reader.bind (·.headingName? line.chomp)).all Text.isAscii &&
      asciiHeadings (s.push line).1 ls

theorem asciiHeadings_cons {s : Scanner} {line : Text} {ls : List Text} :
    s.asciiHeadings (line :: ls) = true ↔
      (∀ r name, s.reader = some r → r.headingName? line.chomp = some name →
        name.isAscii = true) ∧ (s.push line).1.asciiHeadings ls = true := by
  rw [asciiHeadings, Bool.and_eq_true, Option.all_eq_true]
  constructor
  · intro h
    refine ⟨fun r name hr hname => h.1 name ?_, h.2⟩
    rw [hr]
    exact hname
  · intro h
    refine ⟨fun name hname => ?_, h.2⟩
    obtain ⟨r, hr, hname⟩ := Option.bind_eq_some_iff.1 hname
    exact h.1 r name hr hname

variable {s : Scanner} {line : Text}

/-- **An invariant of readers** holds behind a line if start lines give it and lines that do not end
a prologue keep it. -/
theorem reader_push_of_open {I : Reader → Prop}
    (hstart : ∀ r, s.reader = none → Reader.open? line.chomp = some r → I r)
    (hpush : ∀ r, s.reader = some r → (r.push line.chomp).2.prologue = none →
      I (r.push line.chomp).1) :
    ∀ r, (s.push line).1.reader = some r → I r := by
  intro r hr
  cases hreader : s.reader with
  | none =>
    rw [push_of_outside hreader] at hr
    split at hr
    · next opened hopened =>
      rw [← Option.some.inj hr]
      exact hstart opened hreader hopened
    · exact absurd hr (by simp [hreader])
  | some before =>
    rw [push_of_inside hreader] at hr
    simp only at hr
    split at hr
    · simp at hr
    · next hopen =>
      rw [← Option.some.inj hr]
      exact hpush before hreader (by simpa using hopen)

theorem reader_push {I : Reader → Prop} (hstart : ∀ r, Reader.open? line.chomp = some r → I r)
    (hpush : ∀ r, s.reader = some r → I (r.push line.chomp).1) :
    ∀ r, (s.push line).1.reader = some r → I r :=
  reader_push_of_open (fun r _ => hstart r) fun r hr _ => hpush r hr

/-- A prologue that a scanner completes is the one that its reader has read. -/
theorem prologue_of_push {p : Prologue} (hp : (s.push line).2.prologue = some p) :
    ∃ r, s.reader = some r ∧ p = (r.push line.chomp).1.draft.prologue := by
  cases hreader : s.reader with
  | none =>
    rw [push_of_outside hreader] at hp
    split at hp <;> simp at hp
  | some r =>
    rw [push_of_inside hreader] at hp
    exact ⟨r, rfl, Reader.prologue_of_push hp⟩

/-- A scanner whose reader, if it has one, is sound. -/
def Sound (s : Scanner) : Prop := ∀ r, s.reader = some r → r.Sound

theorem sound_reader_push (h : s.Sound) (hnewline : Text.newline ∉ line)
    (hascii : ∀ r name, s.reader = some r → r.headingName? line.chomp = some name →
      name.isAscii = true) : ∀ r, s.reader = some r → (r.push line.chomp).1.Sound := fun r hr =>
  Reader.sound_push (h r hr) (fun hmem => hnewline (Text.mem_of_mem_chomp hmem))
    (Text.chomp_chomp line) (fun name => hascii r name hr)

theorem sound_push (h : s.Sound) (hnewline : Text.newline ∉ line)
    (hascii : ∀ r name, s.reader = some r → r.headingName? line.chomp = some name →
      name.isAscii = true) : (s.push line).1.Sound :=
  reader_push (fun _ => Reader.sound_of_open?) (sound_reader_push h hnewline hascii)

/-- A prologue that a scanner completes is sound. -/
theorem sound_prologue (h : s.Sound) (hnewline : Text.newline ∉ line)
    (hascii : ∀ r name, s.reader = some r → r.headingName? line.chomp = some name →
      name.isAscii = true) {p : Prologue} (hp : (s.push line).2.prologue = some p) : p.Sound := by
  obtain ⟨r, hr, rfl⟩ := prologue_of_push hp
  exact Reader.sound_draft (sound_reader_push h hnewline hascii r hr)

/-- A scanner that knows the legacy prologue it is in as such. -/
def Styled (s : Scanner) : Prop :=
  ∀ m seen d, s.reader = some (.legacy m seen d) → d.prologue.style = some .legacy

theorem styled_outside : Styled {} := fun _ _ _ h => absurd h (by simp)

theorem styled_push (h : s.Styled) (line : Text) : (s.push line).1.Styled := by
  intro m seen d hr
  refine reader_push (I := fun r => ∀ m seen d, r = .legacy m seen d →
    d.prologue.style = some .legacy) ?_ ?_ _ hr m seen d rfl
  · rintro r hopened m seen d rfl
    rw [(Reader.sound_of_open? hopened).2]
  · intro before hreader m seen d hpush
    have hstyle := Reader.style_push before line.chomp
    rw [hpush] at hstyle
    cases before with
    | modern m' d' => simp [Reader.push] at hpush
    | legacy m' seen' d' => exact hstyle.trans (h m' seen' d' hreader)

end Scanner

/-! ### Parts -/

/-- A part that is free of line ends, or a sound prologue. -/
def Item.Sound : Item → Prop
  | line text => Text.newline ∉ text ∧ text.chomp = text
  | prologue p => p.Sound

namespace Source

/-- The ordinary lines of a file. -/
def ordinary (parts : List Item) : List Text := parts.filterMap fun
  | .line text => some text
  | .prologue _ => none

theorem prologues_append (ks ls : List Item) :
    prologues (ks ++ ls) = prologues ks ++ prologues ls :=
  List.filterMap_append

theorem prologues_cons (item : Item) (parts : List Item) :
    prologues (item :: parts) = prologues [item] ++ prologues parts :=
  prologues_append [item] parts

/-- The line of a C comment that may stand beside a prologue is none itself. -/
theorem prologues_comment (yes : Bool) (text : Text) :
    prologues (if yes then [.line text] else []) = [] := by
  cases yes <;> rfl

theorem ordinary_append (ks ls : List Item) :
    ordinary (ks ++ ls) = ordinary ks ++ ordinary ls :=
  List.filterMap_append

theorem mem_ordinary_iff {parts : List Item} {t : Text} :
    t ∈ ordinary parts ↔ .line t ∈ parts := by
  rw [ordinary, List.mem_filterMap]
  constructor
  · intro h
    obtain ⟨item, hitem, ht⟩ := h
    cases item with
    | line text =>
      rw [← Option.some.inj ht]
      exact hitem
    | prologue p => simp at ht
  · intro h
    exact ⟨_, h, rfl⟩

theorem mem_prologues_iff {parts : List Item} {p : Prologue} :
    p ∈ prologues parts ↔ .prologue p ∈ parts := by
  rw [prologues, List.mem_filterMap]
  constructor
  · intro h
    obtain ⟨item, hitem, hp⟩ := h
    cases item with
    | line text => simp at hp
    | prologue q =>
      rw [← Option.some.inj hp]
      exact hitem
  · intro h
    exact ⟨_, h, rfl⟩

theorem mem_items_iff {emission : Emission} {item : Item} : item ∈ items emission ↔
    (∃ p, emission.prologue = some p ∧ item = .prologue p) ∨
      ∃ t, emission.line = some t ∧ item = .line t := by
  rw [items, List.mem_append, Option.mem_toList, Option.mem_toList, Option.map_eq_some_iff,
    Option.map_eq_some_iff]
  constructor
  · intro h
    rcases h with ⟨p, hp, hitem⟩ | ⟨t, ht, hitem⟩
    · exact Or.inl ⟨p, hp, hitem.symm⟩
    · exact Or.inr ⟨t, ht, hitem.symm⟩
  · intro h
    rcases h with ⟨p, hp, hitem⟩ | ⟨t, ht, hitem⟩
    · exact Or.inl ⟨p, hp, hitem.symm⟩
    · exact Or.inr ⟨t, ht, hitem.symm⟩

/-- **Everything found is sound.** -/
theorem sound_splitFrom {ls : List Text} (hlines : ∀ line ∈ ls, Text.newline ∉ line) {s : Scanner}
    (hs : s.Sound) (hascii : s.asciiHeadings ls = true) : ∀ item ∈ splitFrom s ls, item.Sound := by
  induction ls generalizing s with
  | nil =>
    intro item hitem
    rw [splitFrom, Option.mem_toList, Scanner.flush, Option.map_map,
      Option.map_eq_some_iff] at hitem
    obtain ⟨r, hr, rfl⟩ := hitem
    exact Reader.sound_draft (Reader.sound_settle (hs r hr))
  | cons line ls ih =>
    obtain ⟨hheading, hrest⟩ := Scanner.asciiHeadings_cons.1 hascii
    have hnewline := hlines line List.mem_cons_self
    intro item hitem
    rw [splitFrom] at hitem
    rcases List.mem_append.1 hitem with hitem | hitem
    · rcases mem_items_iff.1 hitem with ⟨p, hp, rfl⟩ | ⟨t, ht, rfl⟩
      · exact Scanner.sound_prologue hs hnewline hheading hp
      · rw [Scanner.line_of_push ht]
        exact ⟨fun hmem => hnewline (Text.mem_of_mem_chomp hmem), Text.chomp_chomp line⟩
    · exact ih (fun l hl => hlines l (List.mem_cons_of_mem line hl))
        (Scanner.sound_push hs hnewline hheading) hrest item hitem

/-! ### Modern files -/

theorem isModern_iff {parts : List Item} : isModern parts = true ↔
    prologues parts ≠ [] ∧ ∀ p ∈ prologues parts, p.style = some .modern := by
  rw [isModern, Bool.and_eq_true, Bool.not_eq_true', List.isEmpty_eq_false_iff, List.all_eq_true]
  simp only [beq_iff_eq]

/-- A legacy prologue that is being read is found in the end. -/
theorem exists_legacy_mem_splitFrom (ls : List Text) {s : Scanner} {r : Reader}
    (hreader : s.reader = some r) (hstyle : r.draft.prologue.style = some .legacy) :
    ∃ p, .prologue p ∈ splitFrom s ls ∧ p.style = some .legacy := by
  induction ls generalizing s r with
  | nil =>
    refine ⟨r.result, ?_, ?_⟩
    · rw [splitFrom, Scanner.flush, hreader]
      simp
    · rw [Reader.result, Reader.style_settle, hstyle]
  | cons line ls ih =>
    rw [splitFrom, Scanner.push_of_inside hreader]
    cases hp : (r.push line.chomp).2.prologue with
    | some p =>
      refine ⟨p, List.mem_append_left _ (mem_items_iff.2 (Or.inl ⟨p, hp, rfl⟩)), ?_⟩
      rw [Reader.prologue_of_push hp, Reader.style_push, hstyle]
    | none =>
      have hnext : (r.push line.chomp).1.draft.prologue.style = some .legacy := by
        rw [Reader.style_push, hstyle]
      obtain ⟨p, hmem, hlegacy⟩ := ih (s := ⟨some (r.push line.chomp).1⟩) rfl hnext
      exact ⟨p, List.mem_append_right _ hmem, hlegacy⟩

/-- A start line is handed back only inside a legacy prologue, which is found in the end. -/
theorem exists_legacy_of_start_line {s : Scanner} (hs : s.Styled) {line t : Text} {r : Reader}
    (ht : (s.push line).2.line = some t) (hr : Reader.open? t = some r) (ls : List Text) :
    ∃ p, .prologue p ∈ splitFrom s (line :: ls) ∧ p.style = some .legacy := by
  obtain ⟨-, m, seen, d, hreader, -⟩ := (Scanner.start_line_iff s line).1 ⟨t, ht, by rw [hr]; rfl⟩
  exact exists_legacy_mem_splitFrom (line :: ls) hreader (hs m seen d hreader)

/-- **In a modern file no ordinary line is a start line.** -/
theorem open?_of_all_modern {ls : List Text} {s : Scanner} (hs : s.Styled)
    (hmodern : ∀ p, .prologue p ∈ splitFrom s ls → p.style = some .modern) :
    ∀ t, .line t ∈ splitFrom s ls → Reader.open? t = none := by
  induction ls generalizing s with
  | nil =>
    intro t ht
    rw [splitFrom, Option.mem_toList, Option.map_eq_some_iff] at ht
    obtain ⟨p, -, hp⟩ := ht
    exact Item.noConfusion hp
  | cons line ls ih =>
    intro t ht
    rw [splitFrom] at ht
    rcases List.mem_append.1 ht with hitem | hitem
    · rcases mem_items_iff.1 hitem with ⟨p, -, hp⟩ | ⟨t', ht', hline⟩
      · exact Item.noConfusion hp
      · rw [Item.line.injEq] at hline
        rw [hline]
        by_contra hopen
        obtain ⟨r, hr⟩ := Option.ne_none_iff_exists'.1 hopen
        obtain ⟨p, hp, hlegacy⟩ := exists_legacy_of_start_line hs ht' hr ls
        rw [hmodern p hp] at hlegacy
        exact absurd hlegacy (by decide)
    · refine ih (Scanner.styled_push hs line) (fun p hp => hmodern p ?_) t hitem
      rw [splitFrom]
      exact List.mem_append_right _ hp

end Source

end SourcePrologue

import Mathlib.Data.List.Sort
import SourcePrologue.Convention.Draft
import SourcePrologue.Proofs.Text.Ends

/-!
# Blocks in a store

A settled draft has put its closed blocks into the sections of a prologue one after another.

* **`Sections.mem_names_iff`**, **`Sections.names_pairwise`** — a store has the names under which it
  finds lines, in strictly ascending order, so the names are known from what is found;
* **`Sections.eq_of_find`** — and so is the store, whose sections can be written in any order;
* **`Prologue.appendAll`** — the prologue with blocks added, and **`find_appendAll`**, what it then
  holds under a name: the blocks of that name in order (`blocksUnder`), an empty line between each
  two (`Body.extend`);
* **`find_appendAll_of_mem`** — when no two blocks have one name, every section is one of them.
-/

namespace SourcePrologue

/-! ### Names and lines of a store -/

namespace Sections

variable {s : Sections} {name : Text}

@[simp] theorem find_empty (name : Text) : empty.find name = [] := rfl

theorem linesOf_of_mem {es : List (Text × List Text)} (h : es.Pairwise fun a b => a.1 < b.1)
    {e : Text × List Text} (he : e ∈ es) : linesOf e.1 es = e.2 := by
  induction es with
  | nil => simp at he
  | cons f rest ih =>
    have hf := List.pairwise_cons.1 h
    rw [linesOf]
    rcases List.mem_cons.1 he with rfl | he
    · rw [if_pos rfl]
    · have hlt := hf.1 e he
      have hne : f.1 ≠ e.1 := by
        intro heq
        rw [heq] at hlt
        exact Text.lt_irrefl e.1 hlt
      rw [if_neg hne]
      exact ih hf.2 he

theorem find_of_mem {e : Text × List Text} (he : e ∈ s.entries) : s.find e.1 = e.2 :=
  linesOf_of_mem s.ascending he

theorem mem_entries_of_linesOf {es : List (Text × List Text)} (h : linesOf name es ≠ []) :
    (name, linesOf name es) ∈ es := by
  induction es with
  | nil => simp [linesOf] at h
  | cons f rest ih =>
    rw [linesOf] at h ⊢
    by_cases hf : f.1 = name
    · rw [if_pos hf, ← hf]
      exact List.mem_cons_self
    · rw [if_neg hf] at h ⊢
      exact List.mem_cons_of_mem f (ih h)

theorem mem_entries_of_find (h : s.find name ≠ []) : (name, s.find name) ∈ s.entries :=
  mem_entries_of_linesOf h

theorem mem_entries_iff {e : Text × List Text} : e ∈ s.entries ↔ s.find e.1 = e.2 ∧ e.2 ≠ [] := by
  constructor
  · intro he
    exact ⟨find_of_mem he, s.inhabited e he⟩
  · intro h
    obtain ⟨hfind, hne⟩ := h
    rw [← hfind] at hne
    have hmem := mem_entries_of_find hne
    rw [hfind] at hmem
    exact hmem

theorem mem_names_iff : name ∈ s.names ↔ s.find name ≠ [] := by
  rw [names, List.mem_map]
  constructor
  · rintro ⟨e, he, rfl⟩
    rw [find_of_mem he]
    exact s.inhabited e he
  · exact fun h => ⟨_, mem_entries_of_find h, rfl⟩

theorem has_iff : s.has name = true ↔ s.find name ≠ [] := by
  simp [has]

theorem has_eq_false_iff : s.has name = false ↔ s.find name = [] := by
  simp [has]

theorem names_pairwise (s : Sections) : s.names.Pairwise (· < ·) :=
  List.pairwise_map.2 s.ascending

theorem names_nodup (s : Sections) : s.names.Nodup :=
  s.names_pairwise.imp fun {a b} hab => by
    intro heq
    rw [heq] at hab
    exact Text.lt_irrefl b hab

/-- **Sections are told apart by their lines.** -/
theorem eq_of_find {s t : Sections} (h : ∀ name, s.find name = t.find name) : s = t := by
  have : Std.Irrefl (α := Text × List Text) fun a b => a.1 < b.1 := ⟨fun e => Text.lt_irrefl e.1⟩
  have : Std.Antisymm (α := Text × List Text) fun a b => a.1 < b.1 :=
    ⟨fun a b hab hba => absurd (Text.lt_trans hab hba) (Text.lt_irrefl a.1)⟩
  refine Sections.ext (s.ascending.eq_of_mem_iff t.ascending fun e => ?_)
  rw [mem_entries_iff, mem_entries_iff, h]

theorem set_comm (s : Sections) {name other : Text} (h : name ≠ other) (ls ms : List Text) :
    (s.set name ls).set other ms = (s.set other ms).set name ls := by
  refine eq_of_find fun key => ?_
  rw [find_set, find_set, find_set, find_set]
  by_cases hother : key = other
  · rw [if_pos hother, if_pos hother, if_neg fun hname => h (hname.symm.trans hother)]
  · rw [if_neg hother, if_neg hother]

end Sections

/-- Strictly ascending lists of names with the same members are the same. -/
theorem Text.eq_of_mem_iff {k l : List Text} (hk : k.Pairwise (· < ·)) (hl : l.Pairwise (· < ·))
    (h : ∀ t, t ∈ k ↔ t ∈ l) : k = l := by
  have : Std.Irrefl (α := Text) (· < ·) := ⟨Text.lt_irrefl⟩
  have : Std.Antisymm (α := Text) (· < ·) :=
    ⟨fun a b hab hba => absurd (Text.lt_trans hab hba) (Text.lt_irrefl a)⟩
  exact hk.eq_of_mem_iff hl h

/-! ### Adding blocks -/

/-- The lines of a section with another block behind them. -/
def Body.extend (held ls : List Text) : List Text :=
  if held.isEmpty then ls else held ++ [] :: ls

theorem Body.extend_nil (ls : List Text) : Body.extend [] ls = ls := rfl

theorem Body.extend_of_ne_nil {held : List Text} (h : held ≠ []) (ls : List Text) :
    Body.extend held ls = held ++ [] :: ls := by
  rw [Body.extend, if_neg (by simpa using h)]

theorem Body.mem_extend {held ls : List Text} {line : Text} (h : line ∈ Body.extend held ls) :
    line ∈ held ∨ line = [] ∨ line ∈ ls := by
  by_cases hnil : held = []
  · rw [hnil, Body.extend_nil] at h
    exact Or.inr (Or.inr h)
  · rw [Body.extend_of_ne_nil hnil, List.mem_append, List.mem_cons] at h
    exact h

theorem Body.trimmed_extend {held ls : List Text} (hheld : held = [] ∨ Trimmed held)
    (hls : Trimmed ls) : Trimmed (Body.extend held ls) := by
  rcases hheld with rfl | hheld
  · exact hls
  · rw [Body.extend_of_ne_nil hheld.ne_nil]
    obtain ⟨⟨a, ha, hab⟩, -⟩ := hheld
    obtain ⟨-, z, hz, hzb⟩ := hls
    refine ⟨⟨a, ?_, hab⟩, z, ?_, hzb⟩
    · rw [List.head?_append, ha]
      rfl
    · exact Text.getLast?_append_of_getLast? (Text.getLast?_append_of_getLast? (s := [[]]) hz)

/-- The blocks that go into the section of a given name. -/
def blocksUnder (key : Text) (bs : List (Text × List Text)) : List (List Text) :=
  (bs.filter fun b => SectionName.canonical b.1 = key).map (·.2)

theorem blocksUnder_append (key : Text) (bs cs : List (Text × List Text)) :
    blocksUnder key (bs ++ cs) = blocksUnder key bs ++ blocksUnder key cs := by
  simp [blocksUnder]

theorem mem_of_mem_blocksUnder {key : Text} {bs : List (Text × List Text)} {ls : List Text}
    (h : ls ∈ blocksUnder key bs) : ∃ b ∈ bs, SectionName.canonical b.1 = key ∧ b.2 = ls := by
  obtain ⟨b, hb, rfl⟩ := List.mem_map.1 h
  obtain ⟨hmem, hkey⟩ := List.mem_filter.1 hb
  exact ⟨b, hmem, by simpa using hkey, rfl⟩

namespace Prologue

/-- A prologue with blocks added to its sections, one after another. -/
def appendAll (p : Prologue) (bs : List (Text × List Text)) : Prologue :=
  bs.foldl (fun p b => p.append b.1 b.2) p

theorem appendAll_cons (p : Prologue) (b : Text × List Text) (bs : List (Text × List Text)) :
    p.appendAll (b :: bs) = (p.append b.1 b.2).appendAll bs := rfl

/-- Adding blocks changes nothing but sections. -/
theorem appendAll_eq (p : Prologue) (bs : List (Text × List Text)) :
    p.appendAll bs = { p with sections := (p.appendAll bs).sections } := by
  induction bs generalizing p with
  | nil => rfl
  | cons b bs ih =>
    rw [appendAll_cons, ih]
    rfl

/-- What adding blocks does to sections depends on nothing else. -/
theorem sections_appendAll_congr {p q : Prologue} (h : p.sections = q.sections)
    (bs : List (Text × List Text)) : (p.appendAll bs).sections = (q.appendAll bs).sections := by
  induction bs generalizing p q with
  | nil => exact h
  | cons b bs ih =>
    have happend : (p.append b.1 b.2).sections = (q.append b.1 b.2).sections := by
      rw [append, append, setContent, setContent, content, content, h]
    rw [appendAll_cons, appendAll_cons, ih happend]

theorem find_append (p : Prologue) (name : Text) (ls : List Text) (key : Text) :
    (p.append name ls).sections.find key =
      if key = SectionName.canonical name then
        (Body.extend (p.sections.find key) ls).map Text.chomp
      else p.sections.find key := by
  rw [append, setContent, Sections.find_set]
  split
  · next h =>
    rw [h]
    rfl
  · rfl

/-- **What a section holds after blocks were added**: the blocks of its name, in order. -/
theorem find_appendAll (p : Prologue) (bs : List (Text × List Text)) (key : Text) :
    (p.appendAll bs).sections.find key =
      (blocksUnder key bs).foldl (fun held ls => (Body.extend held ls).map Text.chomp)
        (p.sections.find key) := by
  induction bs generalizing p with
  | nil => rfl
  | cons b bs ih =>
    rw [appendAll_cons, ih, find_append]
    by_cases hkey : key = SectionName.canonical b.1
    · have hunder : blocksUnder key (b :: bs) = b.2 :: blocksUnder key bs := by
        simp [blocksUnder, hkey]
      rw [if_pos hkey, hunder, List.foldl_cons]
    · have hunder : blocksUnder key (b :: bs) = blocksUnder key bs := by
        simp [blocksUnder, Ne.symm hkey]
      rw [if_neg hkey, hunder]

/-- Lines without line ends are kept as they are when blocks are added. -/
theorem find_appendAll_of_chomp {p : Prologue} {bs : List (Text × List Text)} {key : Text}
    (hheld : ∀ line ∈ p.sections.find key, line.chomp = line)
    (hblocks : ∀ b ∈ bs, ∀ line ∈ b.2, line.chomp = line) :
    (p.appendAll bs).sections.find key =
      (blocksUnder key bs).foldl Body.extend (p.sections.find key) := by
  have hunder : ∀ ls ∈ blocksUnder key bs, ∀ line ∈ ls, line.chomp = line := by
    intro ls hls
    obtain ⟨b, hb, -, rfl⟩ := mem_of_mem_blocksUnder hls
    exact hblocks b hb
  rw [find_appendAll]
  generalize p.sections.find key = held at hheld
  generalize blocksUnder key bs = blocks at hunder
  induction blocks generalizing held with
  | nil => rfl
  | cons ls blocks ih =>
    have hall : ∀ line ∈ Body.extend held ls, line.chomp = line := by
      intro line hline
      rcases Body.mem_extend hline with hline | hline | hline
      · exact hheld line hline
      · rw [hline]
        rfl
      · exact hunder ls List.mem_cons_self line hline
    have hkept : (Body.extend held ls).map Text.chomp = Body.extend held ls := by
      rw [List.map_congr_left hall, List.map_id']
    rw [List.foldl_cons, List.foldl_cons, hkept,
      ih _ hall fun l hl => hunder l (List.mem_cons_of_mem ls hl)]

theorem find_appendAll_of_notMem {p : Prologue} {bs : List (Text × List Text)} {key : Text}
    (h : ∀ b ∈ bs, SectionName.canonical b.1 ≠ key) :
    (p.appendAll bs).sections.find key = p.sections.find key := by
  have hunder : blocksUnder key bs = [] := by
    rw [blocksUnder, List.filter_eq_nil_iff.2 fun b hb => by simpa using h b hb]
    rfl
  rw [find_appendAll, hunder]
  rfl

/-- A block whose name no other block has is the whole of its section. -/
theorem find_appendAll_of_mem {p : Prologue} {bs : List (Text × List Text)}
    {b : Text × List Text} (hb : b ∈ bs) (hcanonical : ∀ c ∈ bs, SectionName.canonical c.1 = c.1)
    (hnodup : (bs.map (·.1)).Nodup) (hchomp : ∀ l ∈ b.2, l.chomp = l)
    (hempty : p.sections.find b.1 = []) : (p.appendAll bs).sections.find b.1 = b.2 := by
  induction bs generalizing p with
  | nil => simp at hb
  | cons c bs ih =>
    rw [List.map_cons, List.nodup_cons] at hnodup
    have hc := hcanonical c List.mem_cons_self
    have hrest : ∀ d ∈ bs, SectionName.canonical d.1 = d.1 := fun d hd =>
      hcanonical d (List.mem_cons_of_mem c hd)
    rw [appendAll_cons]
    rcases List.mem_cons.1 hb with rfl | hb
    · have hother : ∀ d ∈ bs, SectionName.canonical d.1 ≠ b.1 := by
        intro d hd hdb
        rw [hrest d hd] at hdb
        exact hnodup.1 (List.mem_map.2 ⟨d, hd, hdb⟩)
      rw [find_appendAll_of_notMem hother, find_append, if_pos hc.symm, hempty, Body.extend_nil]
      exact (List.map_congr_left hchomp).trans (List.map_id' b.2)
    · refine ih hb hrest hnodup.2 ?_
      have hne : b.1 ≠ SectionName.canonical c.1 := by
        intro heq
        rw [hc] at heq
        exact hnodup.1 (List.mem_map.2 ⟨b, hb, heq⟩)
      rw [find_append, if_neg hne, hempty]

end Prologue

/-! ### Settled drafts -/

namespace Draft

open Body

theorem close_prologue (d : Draft) : d.close.prologue = d.prologue := by
  rw [close]
  split <;> rfl

theorem heading_close (d : Draft) : d.close.heading = none := by
  cases hheading : d.heading with
  | none =>
    rw [close, hheading]
    exact hheading
  | some name => rw [close, hheading]

/-- Closing a block does not look at the prologue. -/
theorem blocks_close_congr {d e : Draft} (hheading : d.heading = e.heading)
    (hblock : d.block = e.block) (hblocks : d.blocks = e.blocks) :
    d.close.blocks = e.close.blocks := by
  rw [close, close, hheading]
  cases e.heading with
  | none => exact hblocks
  | some name =>
    show (if (trimBlankEdges d.block).isEmpty then _ else _) =
      if (trimBlankEdges e.block).isEmpty then _ else _
    rw [hblock, hblocks]

theorem settle_prologue (d : Draft) : d.settle.prologue = d.prologue.appendAll d.close.blocks := by
  rw [← close_prologue d]
  rfl

/-- The sections of a settled draft come from its sections and its blocks. -/
theorem sections_settle_congr {d e : Draft} (hheading : d.heading = e.heading)
    (hblock : d.block = e.block) (hblocks : d.blocks = e.blocks)
    (hsections : d.prologue.sections = e.prologue.sections) :
    d.settle.prologue.sections = e.settle.prologue.sections := by
  rw [settle_prologue, settle_prologue, blocks_close_congr hheading hblock hblocks]
  exact Prologue.sections_appendAll_congr hsections _

end Draft

end SourcePrologue

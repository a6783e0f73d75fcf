import SourcePrologue.Proofs.Prologue.Reread

/-!
# The text of blocks

What the text of a prologue tells of the blocks that it was written from, whatever stands in their
lines.

* **`bodyText`** — the text behind the open marker, and **`render_eq_bodyText`**, where it stands;
* **`name_eq_of_bodyText_eq`** — the text tells the name of the first block, or that there is none;
* **`eq_of_bodyText_eq`** — so when each place is written under a name of its own, the text tells
  what is written at every place where two prologues can differ by their names only.
-/

namespace SourcePrologue.Prologue

open Standard

/-- The text behind the open marker of a prologue in which certain blocks are written. -/
def bodyText (p : Prologue) (bs : List (Text × List Text)) : Text :=
  Text.unlines ((bs.flatMap fun b => p.writeSection b.1 b.2) ++
    (p.commentChar ++ Text.ofChar '-') :: if p.closesComment then [Text.ofString "*/"] else [])

variable {p : Prologue} {b : Text × List Text} {bs cs ds : List (Text × List Text)}

theorem render_eq_bodyText (p : Prologue) : p.render =
    Text.unlines ((if p.opensComment then [Text.ofString "/*"] else []) ++
      [p.commentChar ++ Text.ofChar '+']) ++ p.bodyText p.blocks := by
  rw [render, writtenLines_eq, markedLines, bodyText, Text.unlines, Text.unlines, Text.unlines,
    ← List.flatMap_append]
  simp

theorem bodyText_append (p : Prologue) (bs cs : List (Text × List Text)) :
    p.bodyText (bs ++ cs) =
      Text.unlines (bs.flatMap fun b => p.writeSection b.1 b.2) ++ p.bodyText cs := by
  rw [bodyText, List.flatMap_append, List.append_assoc, Text.unlines, List.flatMap_append]
  rfl

/-- Blocks that are written in both texts can be taken off. -/
theorem bodyText_append_inj :
    p.bodyText (bs ++ cs) = p.bodyText (bs ++ ds) ↔ p.bodyText cs = p.bodyText ds := by
  rw [bodyText_append, bodyText_append, List.append_cancel_left_eq]

theorem bodyText_nil (p : Prologue) :
    ∃ rest, p.bodyText [] = p.commentChar ++ .char '-' :: rest := by
  refine ⟨Text.newline :: Text.unlines (if p.closesComment then [Text.ofString "*/"] else []), ?_⟩
  simp [bodyText, Text.unlines, Text.ofChar]

theorem bodyText_cons (p : Prologue) (b : Text × List Text) (bs : List (Text × List Text)) :
    ∃ rest, p.bodyText (b :: bs) =
      p.commentChar ++ .char ' ' :: .char ' ' :: (b.1 ++ .char ':' :: rest) := by
  refine ⟨Text.newline :: Text.unlines (b.2.map (p.writeLine b.1) ++ [[]]) ++ p.bodyText bs, ?_⟩
  rw [← List.singleton_append, bodyText_append, List.flatMap_singleton, writeSection]
  simp [Text.unlines, Text.ofString, Text.ofChar]

/-- **The text tells the name of the first block**, for no name holds the colon behind it. -/
theorem name_eq_of_bodyText_eq (h : p.bodyText (b :: bs) = p.bodyText cs)
    (hb : .char ':' ∉ b.1) (hcs : ∀ c, cs.head? = some c → .char ':' ∉ c.1) :
    ∃ c rest, cs = c :: rest ∧ c.1 = b.1 := by
  obtain ⟨t, ht⟩ := bodyText_cons p b bs
  rw [ht] at h
  cases cs with
  | nil =>
    obtain ⟨u, hu⟩ := bodyText_nil p
    rw [hu] at h
    exact absurd (List.cons.inj (List.append_cancel_left h)).1 (by decide)
  | cons c rest =>
    obtain ⟨u, hu⟩ := bodyText_cons p c rest
    have hcolon : ∀ {name : Text}, .char ':' ∉ name → ∀ rest : Text,
        (Text.splitOn (· == .char ':') (name ++ .char ':' :: rest)).head? = some name := by
      intro name hname rest
      rw [Text.splitOn_append_cons (fun g hg => ?_) (by decide), List.head?_cons]
      rw [beq_eq_false_iff_ne]
      rintro rfl
      exact hname hg
    rw [hu] at h
    have hnames := (List.cons.inj (List.cons.inj (List.append_cancel_left h)).2).2
    refine ⟨c, rest, rfl, Option.some.inj ?_⟩
    rw [← hcolon (hcs c rfl) u, ← hnames, hcolon hb]

/-- What is written at places is **in place** if every block stands at the place of its name, which
holds no colon. -/
def InPlace (f : Text → Option (Text × List Text)) (names : List Text) : Prop :=
  ∀ name ∈ names, ∀ b, f name = some b → slotOf b.1 = name ∧ .char ':' ∉ b.1

variable {f g : Text → Option (Text × List Text)} {names : List Text}

theorem InPlace.of_mem (h : InPlace f names) {c : Text × List Text} (hc : c ∈ names.filterMap f) :
    slotOf c.1 ∈ names ∧ .char ':' ∉ c.1 := by
  obtain ⟨name, hname, hf⟩ := List.mem_filterMap.1 hc
  obtain ⟨hslot, hcolon⟩ := h name hname c hf
  exact ⟨hslot ▸ hname, hcolon⟩

/-- A text that begins with the block of another place is not written at these. -/
theorem InPlace.bodyText_ne (h : InPlace f names) (hb : .char ':' ∉ b.1)
    (hplace : slotOf b.1 ∉ names) : p.bodyText (b :: bs) ≠ p.bodyText (names.filterMap f) := by
  intro htext
  obtain ⟨c, rest, hc, hcb⟩ := name_eq_of_bodyText_eq htext hb fun c hc =>
    (h.of_mem (List.mem_of_mem_head? hc)).2
  have hmem := (h.of_mem (hc ▸ List.mem_cons_self : c ∈ names.filterMap f)).1
  rw [hcb] at hmem
  exact hplace hmem

/-- **The text tells what is written at places** where the names tell the lines. -/
theorem eq_of_bodyText_eq (hnames : names.Nodup) (hf : InPlace f names) (hg : InPlace g names)
    (hlines : ∀ name ∈ names, ∀ b c, f name = some b → g name = some c → b.1 = c.1 → b = c)
    (h : p.bodyText (names.filterMap f) = p.bodyText (names.filterMap g)) :
    ∀ name ∈ names, f name = g name := by
  induction names with
  | nil => simp
  | cons name names ih =>
    obtain ⟨hfresh, hnames⟩ := List.nodup_cons.1 hnames
    obtain ⟨hfname, hf⟩ := List.forall_mem_cons.1 hf
    obtain ⟨hgname, hg⟩ := List.forall_mem_cons.1 hg
    obtain ⟨hsame, hlines⟩ := List.forall_mem_cons.1 hlines
    cases hfb : f name with
    | none =>
      cases hgc : g name with
      | none =>
        rw [List.filterMap_cons_none hfb, List.filterMap_cons_none hgc] at h
        exact List.forall_mem_cons.2 ⟨hfb.trans hgc.symm, ih hnames hf hg hlines h⟩
      | some c =>
        rw [List.filterMap_cons_none hfb, List.filterMap_cons_some hgc] at h
        obtain ⟨hslot, hcolon⟩ := hgname c hgc
        exact absurd h.symm (InPlace.bodyText_ne hf hcolon (hslot ▸ hfresh))
    | some b =>
      obtain ⟨hslot, hcolon⟩ := hfname b hfb
      cases hgc : g name with
      | none =>
        rw [List.filterMap_cons_some hfb, List.filterMap_cons_none hgc] at h
        exact absurd h (InPlace.bodyText_ne hg hcolon (hslot ▸ hfresh))
      | some c =>
        rw [List.filterMap_cons_some hfb, List.filterMap_cons_some hgc] at h
        obtain ⟨d, rest, hd, hdb⟩ := name_eq_of_bodyText_eq h hcolon fun d hd =>
          Option.some.inj hd ▸ (hgname c hgc).2
        rw [← (List.cons.inj hd).1] at hdb
        have hbc := hsame b c hfb hgc hdb.symm
        rw [← hbc, ← List.singleton_append, ← List.singleton_append (l := names.filterMap g),
          bodyText_append_inj] at h
        exact List.forall_mem_cons.2
          ⟨hfb.trans ((congrArg some hbc).trans hgc.symm), ih hnames hf hg hlines h⟩

end SourcePrologue.Prologue

import SourcePrologue.Proofs.Convention.Passages
import SourcePrologue.Proofs.Section.Settled

/-!
# Moves on blocks

What a line of either convention does to a draft is one of four **moves**: it begins a block, adds a
line to the open one, ends it, or does none of that. Settling a draft ends the open block too and
puts the closed ones into the prologue.

* **`Move.blocks`** — the blocks that moves make, told from the moves alone;
* **`Draft.Holds.move`** — what a move does to a draft: it closes the block that it says;
* **`Draft.Alike`** — drafts that only differ in how many of their blocks have been put into the
  prologue; moves keep them alike (**`Alike.move`**), settling makes them the same
  (**`Alike.settle`**);
* **`Body.gathered`**, **`Prologue.find_appendAll_kept`** — the lines of a section: its blocks
  without their blank edges, an empty line between each two;
* **`Body.gathered_eq_iff`** — when the blocks of a section are those that were begun under its
  name.
-/

namespace SourcePrologue

open Body SectionName Legacy

/-! ### Moves -/

/-- What a line does to the blocks of a draft. -/
inductive Move where
  /-- Begin a block with a name and its first lines. -/
  | begins (name : Text) (first : List Text)
  | text (line : Text)
  | ends
  | rests
  deriving DecidableEq

namespace Move

/-- The open block behind a move. -/
def next (held : Option (Text × List Text)) : Move → Option (Text × List Text)
  | begins name first => some (name, first)
  | text line => held.map fun b => (b.1, b.2 ++ [line])
  | ends => none
  | rests => held

/-- The block that a move closes. -/
def closed (held : Option (Text × List Text)) : Move → List (Text × List Text)
  | begins _ _ => held.toList
  | text _ => []
  | ends => held.toList
  | rests => []

/-- The **blocks** that moves make out of the open block, with the names that they are begun with.
Text without an open block is in none of them. -/
def blocks (held : Option (Text × List Text)) : List Move → List (Text × List Text)
  | [] => held.toList
  | move :: moves => move.closed held ++ blocks (move.next held) moves

/-- The block that is open is the last one if nothing happens but that it ends. -/
theorem blocks_replicate_ends (held : Option (Text × List Text)) (n : Nat) :
    blocks held (List.replicate n .ends) = held.toList := by
  cases n with
  | zero => rfl
  | succ n =>
    have hnone : ∀ n, blocks none (List.replicate n .ends) = [] := by
      intro n
      induction n with
      | zero => rfl
      | succ n ih => exact ih
    rw [List.replicate_succ, blocks, next, hnone, List.append_nil, closed]

theorem name_of_mem_blocks {held : Option (Text × List Text)} {moves : List Move}
    {b : Text × List Text} (h : b ∈ blocks held moves) :
    (∃ ls, held = some (b.1, ls)) ∨ ∃ first, .begins b.1 first ∈ moves := by
  induction moves generalizing held with
  | nil => exact Or.inl ⟨b.2, Option.mem_toList.1 h⟩
  | cons move moves ih =>
    rw [blocks, List.mem_append] at h
    rcases h with h | h
    · have hheld : held = some b := by
        cases move with
        | begins name first => exact Option.mem_toList.1 h
        | ends => exact Option.mem_toList.1 h
        | text line => exact absurd h List.not_mem_nil
        | rests => exact absurd h List.not_mem_nil
      exact Or.inl ⟨b.2, hheld⟩
    · rcases ih h with ⟨ls, hnext⟩ | ⟨first, hbegins⟩
      · cases move with
        | begins name first =>
          obtain ⟨rfl, -⟩ := Prod.mk.inj (Option.some.inj hnext)
          exact Or.inr ⟨first, List.mem_cons_self⟩
        | text line =>
          obtain ⟨c, hc, hname⟩ := Option.map_eq_some_iff.1 hnext
          rw [← (Prod.mk.inj hname).1]
          exact Or.inl ⟨c.2, hc⟩
        | ends => exact absurd hnext.symm (by simp [next])
        | rests => exact Or.inl ⟨ls, hnext⟩
      · exact Or.inr ⟨first, List.mem_cons_of_mem move hbegins⟩

end Move

/-! ### Blocks as they are kept -/

namespace Body

/-- Blocks as they are closed, under canonical names; blank ones are left out. -/
def kept (bs : List (Text × List Text)) : List (Text × List Text) :=
  (bs.map block).filter (!·.2.isEmpty)

theorem kept_append (bs cs : List (Text × List Text)) : kept (bs ++ cs) = kept bs ++ kept cs := by
  rw [kept, List.map_append, List.filter_append, kept, kept]

/-- The lines of the blocks whose names stand for the section of a given key. -/
def gathered (keyOf : Text → Text) (bs : List (Text × List Text)) (key : Text) : List Text :=
  joined ((bs.filter fun b => keyOf b.1 = key).map (·.2))

theorem joined_eq_foldl (blocks : List (List Text)) :
    joined blocks = ((blocks.map trimBlankEdges).filter (!·.isEmpty)).foldl extend [] := by
  have hne : ∀ ls ∈ (blocks.map trimBlankEdges).filter (!·.isEmpty), ls ≠ [] := by
    intro ls hls
    simpa using (List.mem_filter.1 hls).2
  rw [foldl_extend hne, joined, List.filter_cons, if_neg (by simp), List.filter_filter]
  simp only [Bool.and_self]

/-- Blocks behind others are added to what these have been joined to. -/
theorem joined_append (blocks others : List (List Text)) : joined (blocks ++ others) =
    ((others.map trimBlankEdges).filter (!·.isEmpty)).foldl extend (joined blocks) := by
  rw [joined_eq_foldl, joined_eq_foldl, List.map_append, List.filter_append, List.foldl_append]

/-- Line ends can be taken off in the end as well as whenever a block is added. -/
theorem foldl_extend_chomp (held : List Text) (blocks : List (List Text)) :
    blocks.foldl (fun held ls => (extend held ls).map Text.chomp) (held.map Text.chomp) =
      (blocks.foldl extend held).map Text.chomp := by
  induction blocks generalizing held with
  | nil => rfl
  | cons ls blocks ih =>
    have hstep : (extend (held.map Text.chomp) ls).map Text.chomp = (extend held ls).map Text.chomp := by
      have hchomp : Text.chomp ∘ Text.chomp = Text.chomp := funext Text.chomp_chomp
      by_cases hnil : held = []
      · rw [hnil]
        rfl
      · rw [extend_of_ne_nil hnil, extend_of_ne_nil (by simpa using hnil), List.map_append,
          List.map_map, hchomp, List.map_append]
    rw [List.foldl_cons, List.foldl_cons, hstep, ih]

/-- Only the blocks that are not blank are gathered. -/
theorem gathered_eq (keyOf : Text → Text) (bs : List (Text × List Text)) (key : Text) :
    gathered keyOf bs key = [[]].intercalate ((bs.filter fun b =>
      !(trimBlankEdges b.2).isEmpty && keyOf b.1 = key).map fun b => trimBlankEdges b.2) := by
  rw [gathered, joined, List.map_map, List.filter_map, List.filter_filter]
  rfl

/-- **The blocks of a section are those begun under its name** if the names of blocks that are not
blank are settled, and only then. -/
theorem gathered_eq_iff {bs : List (Text × List Text)} :
    (∀ key, (gathered storedName bs key).map Text.chomp =
      (gathered canonical bs key).map Text.chomp) ↔
    ∀ b ∈ bs, trimBlankEdges b.2 ≠ [] → IsSettled b.1 := by
  constructor
  · intro h b hb hne
    by_contra hunsettled
    have hmem : b.2 ∈ (bs.filter fun c => canonical c.1 = canonical b.1).map (·.2) :=
      List.mem_map_of_mem (List.mem_filter.2 ⟨hb, by simp⟩)
    -- whatever is stored is stored under a name that stays as it is
    have hnone : bs.filter (fun c => storedName c.1 = canonical b.1) = [] := by
      refine List.filter_eq_nil_iff.2 fun c _ hc => hunsettled (canonical_canonical_iff.1 ?_)
      rw [← of_decide_eq_true hc]
      exact canonical_canonical_iff.2 (isSettled_canonical c.1)
    have hkey := h (canonical b.1)
    rw [gathered, hnone] at hkey
    exact joined_ne_nil hmem hne (List.map_eq_nil_iff.1 hkey.symm)
  · intro h key
    have hsame : bs.filter (fun b => !(trimBlankEdges b.2).isEmpty && storedName b.1 = key) =
        bs.filter fun b => !(trimBlankEdges b.2).isEmpty && canonical b.1 = key := by
      refine List.filter_congr fun b hb => ?_
      by_cases hne : trimBlankEdges b.2 = []
      · rw [hne]
        rfl
      · rw [storedName, canonical_canonical_iff.2 (h b hb hne)]
    rw [gathered_eq, gathered_eq, hsame]

end Body

/-- **What a section holds after blocks were added**, without blank edges and line ends. -/
theorem Prologue.find_appendAll_kept {p : Prologue} {seeds : List (Text × List Text)}
    (hp : ∀ key, p.sections.find key = (gathered storedName seeds key).map Text.chomp)
    (bs : List (Text × List Text)) (key : Text) :
    (p.appendAll (kept bs)).sections.find key =
      (gathered storedName (seeds ++ bs) key).map Text.chomp := by
  rw [find_appendAll, hp, kept, blocksUnder_block, foldl_extend_chomp, gathered, gathered,
    List.filter_append, List.map_append, joined_append]

theorem Prologue.appendAll_append (p : Prologue) (bs cs : List (Text × List Text)) :
    p.appendAll (bs ++ cs) = (p.appendAll bs).appendAll cs := List.foldl_append

theorem Prologue.appendAll_closesComment (p : Prologue) (comment : Bool)
    (bs : List (Text × List Text)) : { p with closesComment := comment }.appendAll bs =
      { p.appendAll bs with closesComment := comment } := by
  induction bs generalizing p with
  | nil => rfl
  | cons b bs ih => exact ih (p.append b.1 b.2)

/-! ### Drafts under moves -/

namespace Draft

/-- A draft under a move. -/
def move (d : Draft) : Move → Draft
  | .begins name first => first.foldl add (d.start name)
  | .text line => if d.isOpen then d.add line else d
  | .ends => d.close
  | .rests => d

/-- A draft **holds** a block if this is the open one; without an open block there are no lines. -/
def Holds (d : Draft) (held : Option (Text × List Text)) : Prop :=
  d.heading = held.map (fun b => canonical b.1) ∧ d.block = (held.map (·.2)).getD []

variable {d e : Draft} {held : Option (Text × List Text)}

theorem close_of_heading (h : d.heading = none) : d.close = d := by
  rw [close, h]

theorem Holds.close_blocks (h : d.Holds held) : d.close.blocks = d.blocks ++ kept held.toList := by
  obtain ⟨hheading, hblock⟩ := h
  cases held with
  | none =>
    rw [close_of_heading hheading]
    exact (List.append_nil d.blocks).symm
  | some b =>
    rw [blocks_close hheading, hblock]
    rfl

theorem Holds.close (h : d.Holds held) : d.close.Holds none := by
  refine ⟨heading_close d, ?_⟩
  obtain ⟨hheading, hblock⟩ := h
  cases held with
  | none =>
    rw [close_of_heading hheading]
    exact hblock
  | some b =>
    rw [Draft.close, hheading]
    rfl

theorem foldl_add (d : Draft) (ls : List Text) :
    ls.foldl add d = { d with block := d.block ++ ls } := by
  induction ls generalizing d with
  | nil => rw [List.foldl_nil, List.append_nil]
  | cons l ls ih =>
    rw [List.foldl_cons, ih, add]
    simp

/-- Moves put nothing into the prologue. -/
theorem prologue_move (d : Draft) (x : Move) : (d.move x).prologue = d.prologue := by
  cases x with
  | begins name first =>
    rw [Draft.move, foldl_add]
    exact close_prologue d
  | text line =>
    rw [Draft.move]
    split
    · rfl
    · rfl
  | ends => exact close_prologue d
  | rests => rfl

/-- **What a move does to a draft**: it closes the block that it says and leaves the next one open. -/
theorem Holds.move (h : d.Holds held) (x : Move) :
    (d.move x).Holds (x.next held) ∧ (d.move x).blocks = d.blocks ++ kept (x.closed held) := by
  cases x with
  | begins name first =>
    have hblock : d.close.block = [] := h.close.2
    rw [Draft.move, foldl_add, start]
    refine ⟨⟨rfl, ?_⟩, h.close_blocks⟩
    show d.close.block ++ first = first
    rw [hblock, List.nil_append]
  | text line =>
    rw [Draft.move]
    cases held with
    | none =>
      rw [if_neg (by rw [isOpen, h.1]; exact Bool.false_ne_true)]
      exact ⟨h, (List.append_nil d.blocks).symm⟩
    | some b =>
      rw [if_pos (by rw [isOpen, h.1]; rfl)]
      refine ⟨⟨h.1, ?_⟩, (List.append_nil d.blocks).symm⟩
      show d.block ++ [line] = b.2 ++ [line]
      rw [h.2]
      rfl
  | ends => exact ⟨h.close, h.close_blocks⟩
  | rests => exact ⟨h, (List.append_nil d.blocks).symm⟩

/-! ### Settling -/

theorem settle_eq (d : Draft) : d.settle =
    ⟨d.close.prologue.appendAll d.close.blocks, d.close.heading, d.close.block, []⟩ := rfl

/-- **Settling again changes nothing.** -/
theorem settle_settle (d : Draft) : d.settle.settle = d.settle := by
  have hclosed : d.settle.close = d.settle := close_of_heading (heading_close d)
  rw [settle_eq d.settle, hclosed]
  rfl

/-- Drafts that are **alike**: the same block is open, and the same closed blocks have been put into
the prologue or are to be put there. -/
structure Alike (d e : Draft) : Prop where
  heading : d.heading = e.heading
  block : d.block = e.block
  stored : d.prologue.appendAll d.blocks = e.prologue.appendAll e.blocks

theorem Alike.of_eq (h : d = e) : Alike d e := by
  rw [h]
  exact ⟨rfl, rfl, rfl⟩

theorem Alike.close (h : Alike d e) : Alike d.close e.close := by
  cases hheading : e.heading with
  | none =>
    rw [close_of_heading hheading, close_of_heading (h.heading.trans hheading)]
    exact h
  | some name =>
    rw [Draft.close, Draft.close, h.heading, hheading, h.block]
    refine ⟨rfl, rfl, ?_⟩
    show d.prologue.appendAll (if _ then _ else _) = e.prologue.appendAll (if _ then _ else _)
    split
    · exact h.stored
    · rw [Prologue.appendAll_append, Prologue.appendAll_append, h.stored]

/-- **Settled, they are the same.** -/
theorem Alike.settle (h : Alike d e) : d.settle = e.settle := by
  rw [settle_eq, settle_eq, h.close.heading, h.close.block, h.close.stored]

theorem Alike.move (h : Alike d e) (x : Move) : Alike (d.move x) (e.move x) := by
  cases x with
  | begins name first =>
    rw [Draft.move, Draft.move, foldl_add, foldl_add]
    exact ⟨rfl, congrArg (· ++ first) h.close.block, h.close.stored⟩
  | text line =>
    rw [Draft.move, Draft.move, isOpen, isOpen, h.heading]
    split
    · exact ⟨h.heading, congrArg (· ++ [line]) h.block, h.stored⟩
    · exact h
  | ends => exact h.close
  | rests => exact h

/-- An end marker says whether a C comment closes, and no more than that differs for it. -/
theorem Alike.closing (h : Alike d e) (comment : Bool) :
    Alike { d with prologue := { d.prologue with closesComment := comment } }
      { e with prologue := { e.prologue with closesComment := comment } } := by
  refine ⟨h.heading, h.block, ?_⟩
  calc { d.prologue with closesComment := comment }.appendAll d.blocks
      = { d.prologue.appendAll d.blocks with closesComment := comment } :=
        d.prologue.appendAll_closesComment comment d.blocks
    _ = { e.prologue.appendAll e.blocks with closesComment := comment } := by rw [h.stored]
    _ = { e.prologue with closesComment := comment }.appendAll e.blocks :=
        (e.prologue.appendAll_closesComment comment e.blocks).symm

/-- Settling a draft leaves it like one whose block has ended. -/
theorem alike_settle (d : Draft) : Alike d.settle (d.move .ends) := ⟨rfl, rfl, rfl⟩

end Draft

end SourcePrologue

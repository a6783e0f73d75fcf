import Mathlib.Data.List.DropRight
import SourcePrologue.Section.Body

/-!
# The ends of texts and of blocks of lines

What reading takes off a line and off a block of lines, and when it takes nothing:

* **`chomp_of_suffix`** — the end of a line without a line end has none either;
* **`chomp_append`** — a text in front does not bring a line end;
* **`Body.Trimmed`** — the blocks whose first and last lines are not blank, which are those
  that `Body.trimBlankEdges` gives (`Body.trimmed_trimBlankEdges`) and leaves alone
  (`Body.trimBlankEdges_of_trimmed`);
* **`Body.stripIndent_replicate`** — indentation that was written is taken off again.
-/

namespace SourcePrologue

/-! ### Lists without a tail -/

namespace Text

variable {α : Type} {p : α → Bool} {l : List α}

theorem dropEnd_eq_rdropWhile (p : α → Bool) (l : List α) : dropEnd p l = l.rdropWhile p := rfl

theorem dropEnd_prefix_self (p : α → Bool) (l : List α) : dropEnd p l <+: l :=
  l.rdropWhile_prefix p

theorem dropEnd_eq_nil_iff : dropEnd p l = [] ↔ ∀ x ∈ l, p x = true :=
  List.rdropWhile_eq_nil_iff

theorem dropEnd_dropEnd (p : α → Bool) (l : List α) : dropEnd p (dropEnd p l) = dropEnd p l :=
  List.rdropWhile_idempotent p l

theorem getLast?_dropEnd {x : α} (h : (dropEnd p l).getLast? = some x) : p x = false := by
  have hne : l.rdropWhile p ≠ [] := by
    intro hnil
    rw [dropEnd_eq_rdropWhile, hnil] at h
    simp at h
  have hlast := List.rdropWhile_last_not p l hne
  rw [dropEnd_eq_rdropWhile, List.getLast?_eq_some_getLast hne] at h
  rw [Option.some.inj h] at hlast
  simpa using hlast

theorem dropEnd_eq_self_iff : dropEnd p l = l ↔ ∀ x, l.getLast? = some x → p x = false := by
  constructor
  · intro h x hx
    rw [← h] at hx
    exact getLast?_dropEnd hx
  · intro h
    rw [dropEnd_eq_rdropWhile, List.rdropWhile_eq_self_iff]
    intro hne
    simp [h _ (List.getLast?_eq_some_getLast hne)]

/-- A tail of which something is left keeps everything in front of it. -/
theorem dropEnd_append_of_ne_nil {s t : List α} (h : dropEnd p t ≠ []) :
    dropEnd p (s ++ t) = s ++ dropEnd p t := by
  have hdrop : (t.reverse.dropWhile p).isEmpty = false := by
    simpa [dropEnd] using h
  rw [dropEnd, dropEnd, List.reverse_append, List.dropWhile_append, hdrop]
  simp

theorem dropEnd_append {s t : List α} (hne : t ≠ []) (h : dropEnd p t = t) :
    dropEnd p (s ++ t) = s ++ t := by
  rw [dropEnd_append_of_ne_nil (by rwa [h]), h]

theorem dropEnd_of_suffix {s t : List α} (hst : s <:+ t) (h : dropEnd p t = t) :
    dropEnd p s = s := by
  obtain ⟨r, rfl⟩ := hst
  rw [dropEnd_eq_self_iff] at h ⊢
  intro x hx
  refine h x ?_
  rw [List.getLast?_append, hx]
  rfl

theorem getLast?_append_of_getLast? {s t : List α} {x : α} (h : t.getLast? = some x) :
    (s ++ t).getLast? = some x := by
  rw [List.getLast?_append, h]
  rfl

/-! ### Blank texts and line ends -/

theorem isBlank_iff {t : Text} : t.isBlank = true ↔ ∀ g ∈ t, g.isBlank = true := by
  simp [isBlank]

theorem isBlank_append (s t : Text) : (s ++ t).isBlank = (s.isBlank && t.isBlank) :=
  List.all_append

theorem ne_nil_of_isBlank_eq_false {t : Text} (h : t.isBlank = false) : t ≠ [] := by
  rintro rfl
  simp [isBlank] at h

@[simp] theorem isBlank_replicate_space (n : Nat) :
    Text.isBlank (List.replicate n (Glyph.char ' ')) = true := by
  have hspace : (Glyph.char ' ').isBlank = true := by decide
  rw [isBlank_iff]
  intro g hg
  rw [List.eq_of_mem_replicate hg]
  exact hspace

theorem trimStart_eq_nil_iff {t : Text} : t.trimStart = [] ↔ t.isBlank = true := by
  rw [trimStart, List.dropWhile_eq_nil_iff, isBlank_iff]

theorem trimStart_suffix (t : Text) : t.trimStart <:+ t := List.dropWhile_suffix _

theorem trimStart_cons {g : Glyph} (h : g.isBlank = false) (t : Text) :
    trimStart (g :: t) = g :: t := by
  simp [trimStart, h]

theorem isBlank_of_trimStart {t rest : Text} {g : Glyph} (h : t.trimStart = g :: rest) :
    g.isBlank = false := by
  have hne : t.dropWhile Glyph.isBlank ≠ [] := by
    show t.trimStart ≠ []
    rw [h]
    exact List.cons_ne_nil g rest
  have hhead := List.head_dropWhile_not Glyph.isBlank hne
  have hdrop : t.dropWhile Glyph.isBlank = g :: rest := h
  simp only [hdrop, List.head_cons] at hhead
  exact hhead

theorem trimEnd_eq_self_iff {t : Text} :
    t.trimEnd = t ↔ ∀ g, t.getLast? = some g → g.isBlank = false :=
  dropEnd_eq_self_iff

theorem trimEnd_eq_nil_iff {t : Text} : t.trimEnd = [] ↔ t.isBlank = true := by
  rw [trimEnd, dropEnd_eq_nil_iff, isBlank_iff]

theorem trimEnd_trimEnd (t : Text) : t.trimEnd.trimEnd = t.trimEnd := dropEnd_dropEnd _ t

/-- Indentation is trimmed off. -/
theorem trim_append_of_isBlank {w : Text} (h : w.isBlank = true) (t : Text) :
    (w ++ t).trim = t.trim := by
  rw [trim, trimStart, List.dropWhile_append_of_pos (isBlank_iff.1 h)]
  rfl

theorem isBlank_newline : newline.isBlank = true := by decide

theorem isBlank_carriageReturn : carriageReturn.isBlank = true := by decide

theorem chomp_chomp (t : Text) : t.chomp.chomp = t.chomp := dropEnd_dropEnd _ t

theorem chomp_append {s t : Text} (hne : t ≠ []) (h : t.chomp = t) : (s ++ t).chomp = s ++ t :=
  dropEnd_append hne h

theorem chomp_append_of_ne_nil {s t : Text} (h : t.chomp ≠ []) :
    (s ++ t).chomp = s ++ t.chomp :=
  dropEnd_append_of_ne_nil h

theorem chomp_of_suffix {s t : Text} (hst : s <:+ t) (h : t.chomp = t) : s.chomp = s :=
  dropEnd_of_suffix hst h

theorem chomp_of_notMem {t : Text} (hnewline : newline ∉ t) (hreturn : carriageReturn ∉ t) :
    t.chomp = t := by
  rw [chomp, dropEnd_eq_self_iff]
  intro g hg
  have hmem := List.mem_of_getLast? hg
  rw [Bool.or_eq_false_iff, beq_eq_false_iff_ne, beq_eq_false_iff_ne]
  constructor
  · intro heq
    rw [heq] at hmem
    exact hnewline hmem
  · intro heq
    rw [heq] at hmem
    exact hreturn hmem

/-- A text from which no line end is taken off ends in none. -/
theorem getLast?_of_chomp {t : Text} (h : t.chomp = t) :
    t.getLast? ≠ some newline ∧ t.getLast? ≠ some carriageReturn := by
  have hlast := dropEnd_eq_self_iff.1 h
  exact ⟨fun hnewline => absurd (hlast _ hnewline) (by decide),
    fun hreturn => absurd (hlast _ hreturn) (by decide)⟩

theorem mem_of_mem_chomp {g : Glyph} {t : Text} (h : g ∈ t.chomp) : g ∈ t :=
  (dropEnd_prefix_self _ t).subset h

/-- A text that does not end in white space does not end in a line end. -/
theorem chomp_of_trimEnd {t : Text} (h : t.trimEnd = t) : t.chomp = t := by
  rw [trimEnd_eq_self_iff] at h
  rw [chomp, dropEnd_eq_self_iff]
  intro g hg
  have hblank := h g hg
  have hnewline : g ≠ newline := by
    rintro rfl
    rw [isBlank_newline] at hblank
    exact Bool.noConfusion hblank
  have hreturn : g ≠ carriageReturn := by
    rintro rfl
    rw [isBlank_carriageReturn] at hblank
    exact Bool.noConfusion hblank
  simp [hnewline, hreturn]

/-! ### Blank lines -/

/-- A line as reading gives it back: nothing at all if it is blank. -/
def orEmpty (t : Text) : Text := if t.isBlank then [] else t

theorem orEmpty_of_not_isBlank {t : Text} (h : t.isBlank = false) : t.orEmpty = t := by
  rw [orEmpty, if_neg (by simp [h])]

theorem isBlank_orEmpty (t : Text) : t.orEmpty.isBlank = t.isBlank := by
  rw [orEmpty]
  split
  · next h =>
    rw [h]
    rfl
  · rfl

theorem isBlank_of_occursIn {part line : Text} (hpart : part.isBlank = false)
    (h : occursIn part line = true) : line.isBlank = false := by
  have hwithin : part <:+: line := by
    induction line with
    | nil =>
      rw [occursIn, List.isEmpty_iff] at h
      subst h
      exact List.infix_refl []
    | cons g t ih =>
      rw [occursIn, Bool.or_eq_true, List.isPrefixOf_iff_prefix] at h
      rcases h with h | h
      · exact h.isInfix
      · exact (ih h).trans (List.suffix_cons g t).isInfix
  by_contra hblank
  rw [Bool.not_eq_false, isBlank_iff] at hblank
  have hall := isBlank_iff.2 fun g hg => hblank g (hwithin.subset hg)
  rw [hall] at hpart
  exact Bool.noConfusion hpart

theorem chomp_orEmpty {t : Text} (h : t.chomp = t) : t.orEmpty.chomp = t.orEmpty := by
  rw [orEmpty]
  split
  · rfl
  · exact h

end Text

/-! ### Blocks of lines -/

namespace Body

/-- A block whose first and last lines are not blank; it has lines. -/
def Trimmed (ls : List Text) : Prop :=
  (∃ a, ls.head? = some a ∧ a.isBlank = false) ∧ ∃ z, ls.getLast? = some z ∧ z.isBlank = false

theorem Trimmed.ne_nil {ls : List Text} (h : Trimmed ls) : ls ≠ [] := by
  rintro rfl
  obtain ⟨⟨a, ha, -⟩, -⟩ := h
  simp at ha

theorem trimBlankEdges_eq_nil_iff {ls : List Text} :
    trimBlankEdges ls = [] ↔ ∀ l ∈ ls, l.isBlank = true := by
  constructor
  · intro h
    have hall := Text.dropEnd_eq_nil_iff.1 h
    refine List.dropWhile_eq_nil_iff.1 ?_
    by_contra hne
    have hhead := List.head_dropWhile_not Text.isBlank hne
    rw [hall _ (List.head_mem hne)] at hhead
    exact Bool.noConfusion hhead
  · intro h
    rw [trimBlankEdges, List.dropWhile_eq_nil_iff.2 h]
    rfl

theorem trimBlankEdges_ne_nil_iff {ls : List Text} :
    trimBlankEdges ls ≠ [] ↔ ∃ l ∈ ls, l.isBlank = false := by
  rw [Ne, trimBlankEdges_eq_nil_iff]
  simp

@[simp] theorem trimBlankEdges_nil : trimBlankEdges [] = [] := rfl

theorem ne_nil_of_trimBlankEdges {ls : List Text} (h : trimBlankEdges ls ≠ []) : ls ≠ [] := by
  rintro rfl
  exact h trimBlankEdges_nil

theorem trimmed_trimBlankEdges {ls : List Text} (h : trimBlankEdges ls ≠ []) :
    Trimmed (trimBlankEdges ls) := by
  constructor
  · -- the head of the trimmed block is the head of what is left of the block
    obtain ⟨a, t, hat⟩ := List.exists_cons_of_ne_nil h
    refine ⟨a, by rw [hat]; rfl, ?_⟩
    have hprefix : a :: t <+: ls.dropWhile Text.isBlank := by
      rw [← hat]
      exact Text.dropEnd_prefix_self _ _
    obtain ⟨s, hs⟩ := hprefix
    have hne : ls.dropWhile Text.isBlank ≠ [] := by rw [← hs]; simp
    have hhead := List.head_dropWhile_not Text.isBlank hne
    simp only [← hs] at hhead
    exact hhead
  · exact ⟨_, List.getLast?_eq_some_getLast h,
      Text.getLast?_dropEnd (List.getLast?_eq_some_getLast h)⟩

theorem trimmed_singleton {l : Text} (h : l.isBlank = false) : Trimmed [l] :=
  ⟨⟨l, rfl, h⟩, l, rfl, h⟩

theorem trimBlankEdges_of_trimmed {ls : List Text} (h : Trimmed ls) : trimBlankEdges ls = ls := by
  obtain ⟨⟨a, ha, hab⟩, z, hz, hzb⟩ := h
  have hdrop : ls.dropWhile Text.isBlank = ls := by
    cases ls with
    | nil => rfl
    | cons b t =>
      rw [List.head?_cons, Option.some.injEq] at ha
      rw [ha]
      exact List.dropWhile_cons_of_neg (by simp [hab])
  rw [trimBlankEdges, hdrop, Text.dropEnd_eq_self_iff]
  intro x hx
  rw [hz] at hx
  rw [← Option.some.inj hx]
  exact hzb

/-- Lines of which the first is not blank keep it when they are trimmed. -/
theorem trimBlankEdges_cons {line : Text} (h : line.isBlank = false) (rest : List Text) :
    ∃ rest', trimBlankEdges (line :: rest) = line :: rest' := by
  have hdrop : (line :: rest).dropWhile Text.isBlank = line :: rest :=
    List.dropWhile_cons_of_neg (by simp [h])
  have hfront := Text.dropEnd_prefix_self Text.isBlank (line :: rest)
  rw [trimBlankEdges, hdrop]
  cases hcut : Text.dropEnd Text.isBlank (line :: rest) with
  | nil =>
    rw [Text.dropEnd_eq_nil_iff.1 hcut line List.mem_cons_self] at h
    exact Bool.noConfusion h
  | cons first rest' =>
    rw [hcut, List.cons_prefix_cons] at hfront
    exact ⟨rest', by rw [hfront.1]⟩

/-- Trimmed lines are trimmed already. -/
theorem trimBlankEdges_trimBlankEdges (ls : List Text) :
    trimBlankEdges (trimBlankEdges ls) = trimBlankEdges ls := by
  by_cases h : trimBlankEdges ls = []
  · rw [h, trimBlankEdges_nil]
  · exact trimBlankEdges_of_trimmed (trimmed_trimBlankEdges h)

theorem mem_of_mem_trimBlankEdges {l : Text} {ls : List Text} (h : l ∈ trimBlankEdges ls) :
    l ∈ ls :=
  (List.dropWhile_suffix _).subset ((Text.dropEnd_prefix_self _ _).subset h)

/-- Trimming takes blank lines only. -/
theorem mem_trimBlankEdges {l : Text} {ls : List Text} (h : l ∈ ls) (hl : l.isBlank = false) :
    l ∈ trimBlankEdges ls := by
  have hrest : l ∈ ls.dropWhile Text.isBlank := by
    rw [← List.takeWhile_append_dropWhile (p := Text.isBlank) (l := ls), List.mem_append] at h
    rcases h with h | h
    · rw [List.mem_takeWhile_imp h] at hl
      exact Bool.noConfusion hl
    · exact h
  have hcut := List.rdropWhile_append_rtakeWhile (p := Text.isBlank) (l := ls.dropWhile Text.isBlank)
  rw [← hcut, List.mem_append] at hrest
  rcases hrest with h | h
  · exact h
  · rw [List.mem_rtakeWhile_imp h] at hl
    exact Bool.noConfusion hl

theorem trimmed_map_orEmpty {ls : List Text} (h : Trimmed ls) :
    Trimmed (ls.map Text.orEmpty) := by
  obtain ⟨⟨a, ha, hab⟩, z, hz, hzb⟩ := h
  refine ⟨⟨a.orEmpty, by rw [List.head?_map, ha]; rfl, ?_⟩, z.orEmpty,
    by rw [List.getLast?_map, hz]; rfl, ?_⟩
  · rw [Text.isBlank_orEmpty, hab]
  · rw [Text.isBlank_orEmpty, hzb]

theorem isBlank_of_isPlaceholder {line : Text} (h : isPlaceholder line = true) :
    line.isBlank = false := by
  by_contra hblank
  rw [Bool.not_eq_false, ← Text.trimStart_eq_nil_iff] at hblank
  have htrim : line.trim = [] := by
    rw [Text.trim, hblank]
    rfl
  rw [isPlaceholder, htrim] at h
  exact Bool.noConfusion h

/-! ### Indentation -/

theorem stripIndent_suffix (width : Nat) (t : Text) : stripIndent width t <:+ t := by
  induction width generalizing t with
  | zero => simp [stripIndent]
  | succ width ih =>
    cases t with
    | nil => simp [stripIndent]
    | cons g t =>
      simp only [stripIndent]
      split
      · exact (ih t).trans (List.suffix_cons g t)
      · exact List.suffix_refl _

theorem isBlank_stripIndent (width : Nat) (t : Text) :
    (stripIndent width t).isBlank = t.isBlank := by
  have hspace : (Glyph.char ' ').isBlank = true := by decide
  induction width generalizing t with
  | zero => simp [stripIndent]
  | succ width ih =>
    cases t with
    | nil => simp [stripIndent]
    | cons g t =>
      simp only [stripIndent]
      split
      · next hg => rw [ih, hg, Text.isBlank, Text.isBlank, List.all_cons, hspace, Bool.true_and]
      · rfl

theorem stripIndent_replicate (width : Nat) (t : Text) :
    stripIndent width (List.replicate width (.char ' ') ++ t) = t := by
  induction width with
  | zero => simp [stripIndent]
  | succ width ih => simpa [List.replicate_succ, stripIndent] using ih

end Body

end SourcePrologue

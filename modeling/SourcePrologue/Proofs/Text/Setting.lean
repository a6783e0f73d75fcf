import Mathlib.Data.List.Chain
import SourcePrologue.Proofs.Text.Fill
import SourcePrologue.Proofs.Text.Words

/-!
# Words set in lines

What lines of a width of at least one column hold of the words that they were filled with.

* **`fill_fits`** — no line is empty, and none is longer than the width;
* **`unspaced_fill`** — but for white space, the lines hold what the words hold;
* **`IsSetting`** — words cut into groups of which none could have taken the first word of the next
  one, and **`exists_isSetting`**: words that fit are filled in so, a group on each line;
* **`unwords_fill_iff`** — the lines give the words back if and only if every word fits.
-/

namespace SourcePrologue.Text

/-! ### Texts without white space -/

/-- A text without its white space. -/
def unspaced (t : Text) : Text := t.filter (!·.isBlank)

theorem unspaced_append (s t : Text) : (s ++ t).unspaced = s.unspaced ++ t.unspaced :=
  List.filter_append _ _

theorem unspaced_of_isBlank {t : Text} (h : t.isBlank = true) : t.unspaced = [] := by
  refine List.filter_eq_nil_iff.2 fun g hg => ?_
  have hall : ∀ g ∈ t, g.isBlank = true := by simpa [isBlank] using h
  simp [hall g hg]

theorem unspaced_unwords : ∀ ws : List Text, (unwords ws).unspaced = unspaced ws.flatten
  | [] => rfl
  | [w] => by
    rw [List.flatten_singleton]
    rfl
  | w :: v :: ws => by
    have hspace : (Glyph.char ' ').isBlank = true := by decide
    have hrest : unspaced (.char ' ' :: unwords (v :: ws)) = (unwords (v :: ws)).unspaced :=
      List.filter_cons_of_neg (by simp [hspace])
    have hflat : (w :: v :: ws).flatten = w ++ (v :: ws).flatten := rfl
    rw [unwords_cons_cons, unspaced_append, hrest, unspaced_unwords (v :: ws), hflat,
      unspaced_append]

namespace Filling

variable {width : Nat} {f : Filling}

/-! ### Lines that fit -/

/-- A filling in which no full line is empty and no line is longer than the width. -/
structure Fits (width : Nat) (f : Filling) : Prop where
  full : ∀ line ∈ f.full, line ≠ [] ∧ line.length ≤ width
  line : f.line.length ≤ width

theorem Fits.next (h : f.Fits width) (hline : f.line ≠ []) {t : Text} (ht : t.length ≤ width) :
    Fits width ⟨f.full ++ [f.line], t⟩ := by
  refine ⟨fun line hmem => ?_, ht⟩
  rcases List.mem_append.1 hmem with hmem | hmem
  · exact h.full line hmem
  · rw [List.mem_singleton.1 hmem]
    exact ⟨hline, h.line⟩

theorem Fits.extend (h : f.Fits width) {t : Text} (ht : f.line.length + t.length ≤ width) :
    Fits width { f with line := f.line ++ t } :=
  ⟨h.full, by rw [List.length_append]; exact ht⟩

/-- **Pouring keeps to the width.** A line is left when it is full, and then it holds something. -/
theorem Fits.pour (hwidth : 0 < width) (h : f.Fits width) (t : Text) :
    (f.pour width t).Fits width := by
  induction t generalizing f with
  | nil => exact h
  | cons g t ih =>
    rw [Filling.pour]
    split
    · next hroom => exact ih (h.extend (t := [g]) hroom)
    · next hfull =>
      have hline : f.line ≠ [] := by
        intro hnil
        rw [hnil] at hfull
        exact hfull hwidth
      exact ih (h.next hline (t := [g]) hwidth)

theorem Fits.place (hwidth : 0 < width) (h : f.Fits width) (word : Text) :
    (f.place width word).Fits width := by
  rw [Filling.place]
  split
  · exact h.pour hwidth word
  · next hline =>
    have hne : f.line ≠ [] := by simpa using hline
    split
    · next hroom =>
      refine h.extend ?_
      rw [List.length_cons]
      omega
    · split
      · next hlong => exact (h.extend (t := [.char ' ']) hlong.2).pour hwidth word
      · exact (h.next hne (t := []) (Nat.zero_le width)).pour hwidth word

theorem Fits.foldl (hwidth : 0 < width) (h : f.Fits width) (ws : List Text) :
    (ws.foldl (Filling.place width) f).Fits width := by
  induction ws generalizing f with
  | nil => exact h
  | cons w ws ih => exact ih (h.place hwidth w)

theorem Fits.lines (h : f.Fits width) : ∀ line ∈ f.lines, line ≠ [] ∧ line.length ≤ width := by
  rw [Filling.lines]
  split
  · exact h.full
  · next hline => exact (h.next (t := []) (by simpa using hline) (Nat.zero_le width)).full

/-! ### What lines hold -/

/-- All that stands on the lines, one after another. -/
def text (f : Filling) : Text := f.full.flatten ++ f.line

theorem flatten_lines (f : Filling) : f.lines.flatten = f.text := by
  rw [lines, text]
  split
  · next hline => simp [List.isEmpty_iff.1 hline]
  · rw [List.flatten_append, List.flatten_singleton]

/-- **Pouring loses nothing**, wherever lines end. -/
theorem text_pour (f : Filling) (t : Text) : (f.pour width t).text = f.text ++ t := by
  induction t generalizing f with
  | nil => rw [pour, List.append_nil]
  | cons g t ih =>
    rw [Filling.pour]
    split
    · rw [ih]
      simp [text]
    · rw [ih]
      simp [text]

/-- A word stands behind what has been there, with white space between them at most. -/
theorem text_place (width : Nat) (f : Filling) (word : Text) :
    ∃ gap : Text, gap.isBlank = true ∧ (f.place width word).text = f.text ++ gap ++ word := by
  have hspace : Text.isBlank [Glyph.char ' '] = true := by decide
  rw [Filling.place]
  split
  · exact ⟨[], rfl, by rw [text_pour, List.append_nil]⟩
  · split
    · exact ⟨[.char ' '], hspace, by simp [text]⟩
    · split
      · exact ⟨[.char ' '], hspace, by rw [text_pour]; simp [text]⟩
      · exact ⟨[], rfl, by rw [text_pour]; simp [text]⟩

theorem unspaced_foldl (f : Filling) (ws : List Text) :
    (ws.foldl (Filling.place width) f).text.unspaced = f.text.unspaced ++ unspaced ws.flatten := by
  induction ws generalizing f with
  | nil =>
    show f.text.unspaced = f.text.unspaced ++ []
    rw [List.append_nil]
  | cons w ws ih =>
    obtain ⟨gap, hgap, htext⟩ := text_place width f w
    rw [List.foldl_cons, ih, htext, unspaced_append, unspaced_append, unspaced_of_isBlank hgap,
      List.append_nil, List.flatten_cons, unspaced_append, List.append_assoc]

theorem pour_of_fits {t : Text} (h : f.line.length + t.length ≤ width) :
    f.pour width t = { f with line := f.line ++ t } := by
  induction t generalizing f with
  | nil => rw [pour, List.append_nil]
  | cons g t ih =>
    rw [List.length_cons] at h
    have hrest : (f.line ++ [g]).length + t.length ≤ width := by
      rw [List.length_append, List.length_singleton]
      omega
    rw [Filling.pour, if_pos (by omega), ih hrest, List.append_assoc]
    rfl

end Filling

variable {width : Nat} {ws : List Text}

/-- **The lines fit**: none of them is empty, and none is longer than the width. -/
theorem fill_fits (hwidth : 0 < width) (ws : List Text) :
    ∀ line ∈ fill width ws, line ≠ [] ∧ line.length ≤ width :=
  have hempty : Filling.Fits width {} := ⟨by simp, Nat.zero_le width⟩
  (hempty.foldl hwidth ws).lines

/-- **Nothing is lost and nothing added** but white space. -/
theorem unspaced_fill (width : Nat) (ws : List Text) :
    unspaced (fill width ws).flatten = (unwords ws).unspaced := by
  rw [fill, Filling.flatten_lines, Filling.unspaced_foldl, unspaced_unwords]
  rfl

/-! ### Words that fit -/

/-- Words in groups, one for each line, none of which had room for the first word of the next. -/
structure IsSetting (width : Nat) (ws : List Text) (groups : List (List Text)) : Prop where
  flatten : groups.flatten = ws
  inhabited : ∀ group ∈ groups, group ≠ []
  tight : groups.IsChain fun group next =>
    ∀ w, next.head? = some w → width < (unwords group).length + 1 + w.length

/-- The filling that holds groups of words, the last one on the line that is being filled. -/
def Filling.ofGroups (groups : List (List Text)) (last : List Text) : Filling :=
  ⟨groups.map unwords, unwords last⟩

theorem IsSetting.unwords_last_ne_nil {groups : List (List Text)} {last : List Text}
    (h : IsSetting width ws (groups ++ [last])) (hws : ∀ w ∈ ws, w ≠ []) : unwords last ≠ [] := by
  have hmem : last ∈ groups ++ [last] := List.mem_append_right groups List.mem_cons_self
  refine unwords_ne_nil (h.inhabited last hmem) fun w hw => hws w ?_
  rw [← h.flatten]
  exact List.mem_flatten_of_mem hmem hw

/-- **A word that fits is set** on the line of the last group if there is room for it, or else in a
group of its own. -/
theorem IsSetting.place {groups : List (List Text)} {last : List Text}
    (h : IsSetting width ws (groups ++ [last])) (hws : ∀ w ∈ ws, w ≠ []) {word : Text}
    (hword : word.length ≤ width) : ∃ groups' last',
      IsSetting width (ws ++ [word]) (groups' ++ [last']) ∧
      (Filling.ofGroups groups last).place width word = Filling.ofGroups groups' last' := by
  have hlast : last ≠ [] := h.inhabited last (List.mem_append_right groups List.mem_cons_self)
  have hline : (unwords last).isEmpty = false := by
    simpa using h.unwords_last_ne_nil hws
  have hflatten := h.flatten
  rw [List.flatten_append, List.flatten_singleton] at hflatten
  rw [Filling.place, Filling.ofGroups, hline]
  by_cases hroom : (unwords last).length + 1 + word.length ≤ width
  · refine ⟨groups, last ++ [word], ⟨?_, ?_, ?_⟩, ?_⟩
    · rw [List.flatten_append, List.flatten_singleton, ← List.append_assoc, hflatten]
    · intro group hgroup
      rcases List.mem_append.1 hgroup with hgroup | hgroup
      · exact h.inhabited group (List.mem_append_left _ hgroup)
      · rw [List.mem_singleton.1 hgroup]
        simp
    · -- what stands before the last group has been compared with its first word, which is the same
      obtain ⟨hgroups, -, hnext⟩ := List.isChain_append.1 h.tight
      refine hgroups.append (List.isChain_singleton _) fun group hgroup next hsame w hw => ?_
      rw [List.head?_cons, Option.mem_def, Option.some.injEq] at hsame
      obtain ⟨v, rest, rfl⟩ := List.exists_cons_of_ne_nil hlast
      refine hnext group hgroup (v :: rest) rfl w ?_
      rw [← hsame] at hw
      exact hw
    · rw [if_neg Bool.false_ne_true, if_pos hroom, Filling.ofGroups,
        unwords_append hlast (List.cons_ne_nil word [])]
      rfl
  · refine ⟨groups ++ [last], [word], ⟨?_, ?_, ?_⟩, ?_⟩
    · rw [List.flatten_append, h.flatten, List.flatten_singleton]
    · intro group hgroup
      rcases List.mem_append.1 hgroup with hgroup | hgroup
      · exact h.inhabited group hgroup
      · rw [List.mem_singleton.1 hgroup]
        simp
    · refine h.tight.append (List.isChain_singleton _) fun group hgroup next hnext w hw => ?_
      rw [List.getLast?_concat, Option.mem_def, Option.some.injEq] at hgroup
      rw [List.head?_cons, Option.mem_def, Option.some.injEq] at hnext
      rw [← hnext, List.head?_cons, Option.some.injEq] at hw
      rw [← hgroup, ← hw]
      omega
    · have hshort : ¬(width < word.length ∧ (unwords last).length < width) := by omega
      rw [if_neg Bool.false_ne_true, if_neg hroom, if_neg hshort,
        Filling.pour_of_fits (by simpa using hword), Filling.ofGroups, List.map_append]
      rfl

theorem IsSetting.foldl {groups : List (List Text)} {last vs : List Text}
    (h : IsSetting width ws (groups ++ [last])) (hws : ∀ w ∈ ws, w ≠ [])
    (hvs : ∀ v ∈ vs, v ≠ [] ∧ v.length ≤ width) : ∃ groups' last',
      IsSetting width (ws ++ vs) (groups' ++ [last']) ∧
      vs.foldl (Filling.place width) (Filling.ofGroups groups last) =
        Filling.ofGroups groups' last' := by
  induction vs generalizing ws groups last with
  | nil => exact ⟨groups, last, by rwa [List.append_nil], rfl⟩
  | cons v vs ih =>
    obtain ⟨hv, hrest⟩ := List.forall_mem_cons.1 hvs
    obtain ⟨groups', last', hset, hplace⟩ := h.place hws hv.2
    have hws' : ∀ w ∈ ws ++ [v], w ≠ [] := by
      intro w hw
      rcases List.mem_append.1 hw with hw | hw
      · exact hws w hw
      · rw [List.mem_singleton.1 hw]
        exact hv.1
    obtain ⟨groups'', last'', hset', hfoldl⟩ := ih hset hws' hrest
    refine ⟨groups'', last'', ?_, ?_⟩
    · rwa [List.append_assoc] at hset'
    · rw [List.foldl_cons, hplace, hfoldl]

/-- **Words that fit are set** in groups, one on each line. -/
theorem exists_isSetting (hws : ∀ w ∈ ws, w ≠ [] ∧ w.length ≤ width) :
    ∃ groups, IsSetting width ws groups ∧ fill width ws = groups.map unwords := by
  cases ws with
  | nil => exact ⟨[], ⟨rfl, by simp, List.IsChain.nil⟩, rfl⟩
  | cons w ws =>
    obtain ⟨hw, hrest⟩ := List.forall_mem_cons.1 hws
    have hfirst : IsSetting width [w] ([] ++ [[w]]) :=
      ⟨rfl, by simp, List.isChain_singleton _⟩
    have hplace : Filling.place width {} w = Filling.ofGroups [] [w] := by
      have hempty : ({} : Filling).line.isEmpty = true := rfl
      rw [Filling.place, if_pos hempty, Filling.pour_of_fits (by simpa using hw.2)]
      rfl
    obtain ⟨groups, last, hset, hfoldl⟩ :=
      hfirst.foldl (by simpa using hw.1) hrest
    have hline : (unwords last).isEmpty = false := by
      simpa using hset.unwords_last_ne_nil fun v hv => (hws v hv).1
    refine ⟨groups ++ [last], hset, ?_⟩
    rw [fill, List.foldl_cons, hplace, hfoldl, Filling.lines, Filling.ofGroups, hline,
      List.map_append]
    rfl

theorem unwords_fill (hws : ∀ w ∈ ws, w ≠ [] ∧ w.length ≤ width) :
    unwords (fill width ws) = unwords ws := by
  obtain ⟨groups, hset, hfill⟩ := exists_isSetting hws
  rw [hfill, unwords_map_unwords hset.inhabited, hset.flatten]

/-- **No line could have taken the first word of the next one.** -/
theorem isChain_fill (hws : ∀ w ∈ ws, IsSolid w) (hfits : ∀ w ∈ ws, w.length ≤ width) :
    (fill width ws).IsChain fun line next =>
      ∃ w, next.words.head? = some w ∧ width < line.length + 1 + w.length := by
  obtain ⟨groups, hset, hfill⟩ := exists_isSetting fun w hw => ⟨(hws w hw).1, hfits w hw⟩
  rw [hfill, List.isChain_map]
  refine hset.tight.imp_of_mem_imp fun group next _ hnext htight => ?_
  obtain ⟨w, rest, rfl⟩ := List.exists_cons_of_ne_nil (hset.inhabited next hnext)
  have hsolid : ∀ v ∈ w :: rest, IsSolid v := fun v hv =>
    hws v (hset.flatten ▸ List.mem_flatten_of_mem hnext hv)
  refine ⟨w, ?_, htight w rfl⟩
  rw [words_unwords hsolid]
  rfl

/-- **The lines give the words back** if and only if every word fits: a line holds no word that is
longer than itself. -/
theorem unwords_fill_iff (hwidth : 0 < width) (hws : ∀ w ∈ ws, IsSolid w) :
    unwords (fill width ws) = unwords ws ↔ ∀ w ∈ ws, w.length ≤ width := by
  constructor
  · intro h w hw
    rw [← words_unwords hws, ← h, words_unwords_eq_flatMap, List.mem_flatMap] at hw
    obtain ⟨line, hline, hmem⟩ := hw
    exact (length_le_of_mem_words hmem).trans (fill_fits hwidth ws line hline).2
  · exact fun h => unwords_fill fun w hw => ⟨(hws w hw).1, h w hw⟩

end SourcePrologue.Text

import Mathlib.Data.List.Basic
import SourcePrologue.Text.Fill

/-!
# Filled lines

Whatever the width, filled lines hold the glyphs of the words and spaces (`mem_fill`), and the first
line begins as the first word does (`fill_cons`).
-/

namespace SourcePrologue.Text

namespace Filling

variable {width : Nat} {f : Filling}

/-! ### Glyphs on lines -/

/-- A filling whose lines hold glyphs with a given property only. -/
def Within (p : Glyph → Prop) (f : Filling) : Prop :=
  (∀ line ∈ f.full, ∀ g ∈ line, p g) ∧ ∀ g ∈ f.line, p g

variable {p : Glyph → Prop}

theorem Within.extend (h : f.Within p) {t : Text} (ht : ∀ g ∈ t, p g) :
    Within p { f with line := f.line ++ t } := by
  refine ⟨h.1, fun g hg => ?_⟩
  rcases List.mem_append.1 hg with hg | hg
  · exact h.2 g hg
  · exact ht g hg

theorem Within.next (h : f.Within p) {t : Text} (ht : ∀ g ∈ t, p g) :
    Within p ⟨f.full ++ [f.line], t⟩ := by
  refine ⟨fun line hline => ?_, ht⟩
  rcases List.mem_append.1 hline with hline | hline
  · exact h.1 line hline
  · rw [List.mem_singleton.1 hline]
    exact h.2

theorem Within.pour (h : f.Within p) {t : Text} (ht : ∀ g ∈ t, p g) :
    (f.pour width t).Within p := by
  induction t generalizing f with
  | nil => exact h
  | cons g t ih =>
    have hg : ∀ x ∈ [g], p x := fun x hx => ht x (by rw [List.mem_singleton.1 hx]; simp)
    have hrest : ∀ x ∈ t, p x := fun x hx => ht x (List.mem_cons_of_mem g hx)
    rw [Filling.pour]
    split
    · exact ih (h.extend hg) hrest
    · exact ih (h.next hg) hrest

theorem Within.place (h : f.Within p) (hspace : p (.char ' ')) {word : Text}
    (hword : ∀ g ∈ word, p g) : (f.place width word).Within p := by
  have hspaces : ∀ g ∈ [Glyph.char ' '], p g := fun g hg => by
    rw [List.mem_singleton.1 hg]
    exact hspace
  have hboth : ∀ g ∈ Glyph.char ' ' :: word, p g := fun g hg =>
    (List.mem_cons.1 hg).elim (fun hg => hg ▸ hspace) (hword g)
  rw [Filling.place]
  split
  · exact h.pour hword
  · split
    · exact h.extend hboth
    · split
      · exact (h.extend hspaces).pour hword
      · exact (h.next (t := []) (by simp)).pour hword

theorem Within.foldl (h : f.Within p) (hspace : p (.char ' ')) {ws : List Text}
    (hws : ∀ w ∈ ws, ∀ g ∈ w, p g) : (ws.foldl (Filling.place width) f).Within p := by
  induction ws generalizing f with
  | nil => exact h
  | cons w ws ih =>
    exact ih (h.place hspace (hws w List.mem_cons_self))
      fun v hv => hws v (List.mem_cons_of_mem w hv)

theorem Within.lines (h : f.Within p) : ∀ line ∈ f.lines, ∀ g ∈ line, p g := by
  intro line hline
  rw [Filling.lines] at hline
  split at hline
  · exact h.1 line hline
  · exact (h.next (t := []) (by simp)).1 line hline

/-! ### The first line -/

/-- The line that comes first, full or not. -/
def first (f : Filling) : Text := f.full.headD f.line

theorem first_extend (f : Filling) (t : Text) :
    f.first <+: first { f with line := f.line ++ t } := by
  obtain ⟨full, line⟩ := f
  cases full with
  | nil => exact List.prefix_append line t
  | cons l full => exact List.prefix_refl l

theorem first_next (f : Filling) (t : Text) : first ⟨f.full ++ [f.line], t⟩ = f.first := by
  obtain ⟨full, line⟩ := f
  cases full with
  | nil => rfl
  | cons l full => rfl

/-- **The first line only grows.** -/
theorem first_pour (f : Filling) (t : Text) : f.first <+: (f.pour width t).first := by
  induction t generalizing f with
  | nil => exact List.prefix_refl _
  | cons g t ih =>
    rw [Filling.pour]
    split
    · exact (first_extend f [g]).trans (ih _)
    · have hnext := ih ⟨f.full ++ [f.line], [g]⟩
      rwa [first_next] at hnext

theorem first_place (f : Filling) (word : Text) : f.first <+: (f.place width word).first := by
  rw [Filling.place]
  split
  · exact first_pour f word
  · split
    · exact first_extend f _
    · split
      · exact (first_extend f [.char ' ']).trans (first_pour _ word)
      · rw [← first_next f []]
        exact first_pour _ word

theorem first_foldl (f : Filling) (ws : List Text) :
    f.first <+: (ws.foldl (Filling.place width) f).first := by
  induction ws generalizing f with
  | nil => exact List.prefix_refl _
  | cons w ws ih => exact (first_place f w).trans (ih _)

theorem lines_eq_cons {g : Glyph} {t : Text} (h : f.first = g :: t) :
    ∃ rest, f.lines = (g :: t) :: rest := by
  obtain ⟨full, line⟩ := f
  cases full with
  | nil =>
    have hline : line = g :: t := h
    refine ⟨[], ?_⟩
    rw [lines, hline]
    rfl
  | cons l full =>
    have hl : l = g :: t := h
    rw [lines, hl]
    split
    · exact ⟨full, rfl⟩
    · exact ⟨full ++ [line], rfl⟩

end Filling

/-- Filled lines hold glyphs of the words, and spaces. -/
theorem mem_fill {p : Glyph → Prop} (hspace : p (.char ' ')) {ws : List Text}
    (hws : ∀ w ∈ ws, ∀ g ∈ w, p g) (width : Nat) : ∀ line ∈ fill width ws, ∀ g ∈ line, p g :=
  Filling.Within.lines (Filling.Within.foldl ⟨by simp, by simp⟩ hspace hws)

/-- **The first line begins as the first word does.** -/
theorem fill_cons {width : Nat} (hwidth : 0 < width) (g : Glyph) (t : Text) (ws : List Text) :
    ∃ t' rest, fill width ((g :: t) :: ws) = (g :: t') :: rest := by
  have hplaced : Filling.place width {} (g :: t) = Filling.pour width ⟨[], [g]⟩ t := by
    have hempty : ({} : Filling).line.isEmpty = true := rfl
    rw [Filling.place, if_pos hempty, Filling.pour]
    exact if_pos hwidth
  have hgrown : [g] <+: (ws.foldl (Filling.place width) (Filling.place width {} (g :: t))).first := by
    rw [hplaced]
    exact (Filling.first_pour ⟨[], [g]⟩ t).trans (Filling.first_foldl _ ws)
  obtain ⟨t', ht'⟩ := hgrown
  obtain ⟨rest, hrest⟩ := Filling.lines_eq_cons (t := t') ht'.symm
  exact ⟨t', rest, hrest⟩

end SourcePrologue.Text

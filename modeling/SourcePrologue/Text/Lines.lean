import SourcePrologue.Text.Basic

/-!
# Lines

A file's text is a run of lines, each ended by a line feed; a last line without one counts too. A
carriage return, alone or before a line feed, is a line end as well (`unifyBreaks`). Writing lines
and reading them again gives the same lines (`lines_unlines`).
-/

namespace SourcePrologue.Text

/-- Every line end turned into a line feed. -/
def unifyBreaks : Text → Text
  | [] => []
  | g :: t =>
    if g = carriageReturn then
      if t.head? = some newline then unifyBreaks t else newline :: unifyBreaks t
    else g :: unifyBreaks t

/-- The lines of a text, without their line feeds. -/
def lines (t : Text) : List Text :=
  let pieces := splitOn (· == newline) t
  if pieces.getLast? = some [] then pieces.dropLast else pieces

/-- Lines in a row, each with a line feed after it. -/
def unlines (ls : List Text) : Text := ls.flatMap (· ++ [newline])

theorem splitOn_append_cons {p : Glyph → Bool} {t : Text} (h : ∀ g ∈ t, p g = false) {s : Glyph}
    (hs : p s = true) (rest : Text) : splitOn p (t ++ s :: rest) = t :: splitOn p rest := by
  induction t with
  | nil => simp [splitOn, hs]
  | cons g t ih =>
    have hg := h g (by simp)
    have := ih fun x hx => h x (by simp [hx])
    simp [splitOn, hg, this]

theorem splitOn_unlines {ls : List Text} (h : ∀ l ∈ ls, newline ∉ l) :
    splitOn (· == newline) (unlines ls) = ls ++ [[]] := by
  induction ls with
  | nil => rfl
  | cons l ls ih =>
    have hl : ∀ g ∈ l, (g == newline) = false := by
      intro g hg
      have := h l (by simp)
      simp only [beq_eq_false_iff_ne]
      rintro rfl
      exact this hg
    have hrest := ih fun x hx => h x (by simp [hx])
    have hflat : unlines (l :: ls) = l ++ newline :: unlines ls := by simp [unlines]
    rw [hflat, splitOn_append_cons hl (by simp), hrest]
    rfl

/-- Lines that hold no line feed are read back as they were written. -/
theorem lines_unlines {ls : List Text} (h : ∀ l ∈ ls, newline ∉ l) : lines (unlines ls) = ls := by
  simp [lines, splitOn_unlines h]

end SourcePrologue.Text

import Mathlib.Data.List.TakeDrop
import SourcePrologue.Proofs.Source.Indentation

/-!
# Modern prologues that are indented

White space in front of a marker does not count in a modern prologue, and a line of white space is
as good as an empty one. Every line may have a **margin** of its own:

* **`Modern.classify_margin`** — a margin does not change what a line is;
* **`Scanner.push_margin`** — so it does not change what the scanner makes of the line inside of a
  modern prologue;
* **`Scanner.read_margined`** — nor what it makes of lines of which only the last may be an end
  marker;
* **`Scanner.obtained`** — the prologue that is there in the end, completed or not;
* **`Scanner.margins_of_modern`** — it is the same, and so is everything on the way to it.
-/

namespace SourcePrologue

open Modern

/-! ### Lines behind margins -/

namespace Text

theorem trimStart_append_of_isBlank {w : Text} (hw : w.isBlank = true) (t : Text) :
    (w ++ t).trimStart = t.trimStart :=
  List.dropWhile_append_of_pos (isBlank_iff.1 hw)

/-- What is trimmed off the start of a line is trimmed off with a margin in front of it, and a line
end is trimmed off in any case. -/
theorem trimStart_chomp_append {w : Text} (hw : w.isBlank = true) (line : Text) :
    (w ++ line).chomp.trimStart = line.chomp.trimStart := by
  by_cases hnil : line.chomp = []
  · -- a line of line ends only is blank, and so it is behind a margin
    have hline : line.isBlank = true := by
      rw [isBlank_iff]
      intro g hg
      have hend := dropEnd_eq_nil_iff.1 hnil g hg
      rw [Bool.or_eq_true, beq_iff_eq, beq_iff_eq] at hend
      rcases hend with rfl | rfl
      · exact isBlank_newline
      · exact isBlank_carriageReturn
    have hboth : (w ++ line).isBlank = true := by
      rw [isBlank_append, hw, hline]
      rfl
    have hchomp : (w ++ line).chomp.isBlank = true :=
      isBlank_iff.2 fun g hg => isBlank_iff.1 hboth g (mem_of_mem_chomp hg)
    rw [hnil, trimStart_eq_nil_iff.2 hchomp]
    rfl
  · rw [chomp_append_of_ne_nil hnil, trimStart_append_of_isBlank hw]

end Text

namespace Modern

variable {w line : Text}

/-- **A margin does not change what a line is.** -/
theorem classify_margin (m : Marker) (hw : w.isBlank = true) (line : Text) :
    classify m (w ++ line).chomp = classify m line.chomp := by
  rw [classify, classify, Text.trimStart_chomp_append hw]

theorem chomp_ne_nil_of_opening? {opening : Bool × Marker} (h : opening? line.chomp = some opening) :
    line.chomp ≠ [] := by
  intro hnil
  rw [hnil] at h
  exact Option.some_ne_none _ h.symm

/-- A start line may have a margin. -/
theorem opening?_margin {opening : Bool × Marker} (hw : w.isBlank = true)
    (h : opening? line.chomp = some opening) : opening? (w ++ line).chomp = some opening := by
  rw [Text.chomp_append_of_ne_nil (chomp_ne_nil_of_opening? h), opening?,
    Text.trim_append_of_isBlank hw]
  exact h

end Modern

/-! ### The scanner inside of a modern prologue -/

namespace Scanner

variable {m : Marker}

/-- Inside of a modern prologue a margin does not count. -/
theorem push_margin {w : Text} (hw : w.isBlank = true) (d : Draft) (line : Text) :
    push ⟨some (.modern m d)⟩ (w ++ line) = push ⟨some (.modern m d)⟩ line := by
  rw [push_of_inside rfl, push_of_inside rfl, Reader.push, Reader.push, classify_margin m hw]

/-- A line that is no end marker is read, and nothing comes of it. -/
theorem push_modern {d : Draft} {line : Text} (h : (classify m line.chomp).isClosing = false) :
    push ⟨some (.modern m d)⟩ line = (⟨some (.modern m (step d (classify m line.chomp)))⟩, {}) := by
  rw [push_of_inside rfl]
  simp [Reader.push, h]

theorem push_modern_start {start : Text} {comment : Bool}
    (hstart : opening? start.chomp = some (comment, m)) :
    push {} start = (⟨some (.modern m (openDraft comment m))⟩, {}) := by
  rw [push_of_outside rfl, open?_of_opening? hstart]

theorem emissions_modern {ls : List Text}
    (hopen : ∀ line ∈ ls, (classify m line.chomp).isClosing = false) (d : Draft) :
    emissions ⟨some (.modern m d)⟩ ls = List.replicate ls.length {} := by
  induction ls generalizing d with
  | nil => rfl
  | cons line ls ih =>
    rw [emissions, push_modern (hopen line List.mem_cons_self), List.length_cons,
      List.replicate_succ]
    exact congrArg _ (ih (fun l hl => hopen l (List.mem_cons_of_mem line hl)) _)

/-- Lines without their margins. -/
def bare (bs : List (Text × Text)) : List Text := bs.map (·.2)

/-- Lines with their margins in front of them. -/
def margined (bs : List (Text × Text)) : List Text := bs.map fun b => b.1 ++ b.2

variable {bs : List (Text × Text)}

/-- **Lines of which only the last may be an end marker** are read as they are without margins: the
same comes of each of them, and they leave the scanner in the same state. -/
theorem read_margined (hblank : ∀ b ∈ bs, b.1.isBlank = true)
    (hopen : ∀ b ∈ bs.dropLast, (classify m b.2.chomp).isClosing = false) (d : Draft) :
    emissions ⟨some (.modern m d)⟩ (margined bs) = emissions ⟨some (.modern m d)⟩ (bare bs) ∧
      after ⟨some (.modern m d)⟩ (margined bs) = after ⟨some (.modern m d)⟩ (bare bs) := by
  induction bs generalizing d with
  | nil => exact ⟨rfl, rfl⟩
  | cons b bs ih =>
    obtain ⟨hb, hrest⟩ := List.forall_mem_cons.1 hblank
    have hfirst := push_margin (m := m) hb d b.2
    rw [margined, bare, List.map_cons, List.map_cons, emissions, emissions, after, after,
      List.foldl_cons, List.foldl_cons, hfirst]
    cases bs with
    | nil => exact ⟨rfl, rfl⟩
    | cons c bs =>
      rw [List.dropLast_cons_cons] at hopen
      rw [push_modern (hopen b List.mem_cons_self)]
      obtain ⟨hemissions, hafter⟩ := ih hrest (fun e he => hopen e (List.mem_cons_of_mem b he))
        (step d (classify m b.2.chomp))
      exact ⟨congrArg _ hemissions, hafter⟩

/-! ### The prologue that is obtained -/

/-- The prologue that lines give in the end: the first one that they complete, or else the one that
the scanner is in when they end. -/
def obtained (ls : List Text) : Option Prologue :=
  ((emissions {} ls).findSome? (·.prologue)).or (after {} ls).flush

theorem comments_settle (d : Draft) :
    d.settle.prologue.commentChar = d.prologue.commentChar ∧
      d.settle.prologue.opensComment = d.prologue.opensComment ∧
      d.settle.prologue.closesComment = d.prologue.closesComment := by
  rw [Draft.settle_prologue, Prologue.appendAll_eq]
  exact ⟨rfl, rfl, rfl⟩

theorem emissions_start {start : Text} {comment : Bool}
    (hstart : opening? start.chomp = some (comment, m)) (ls : List Text) :
    emissions {} (start :: ls) = {} :: emissions ⟨some (.modern m (openDraft comment m))⟩ ls := by
  rw [emissions, push_modern_start hstart]

theorem findSome?_replicate_nothing (n : Nat) :
    (List.replicate n ({} : Emission)).findSome? (·.prologue) = none := by
  rw [List.findSome?_eq_none_iff]
  intro e he
  rw [List.eq_of_mem_replicate he]

section

variable {start : Text} {comment : Bool} {ls : List Text}
  (hstart : opening? start.chomp = some (comment, m))
  (hopen : ∀ line ∈ ls, (classify m line.chomp).isClosing = false)

include hstart hopen

/-- Without an end marker the prologue is there when the lines end. -/
theorem obtained_of_open :
    obtained (start :: ls) = some (read m (openDraft comment m) ls).settle.prologue := by
  have hafter : after {} (start :: ls) = ⟨some (.modern m (read m (openDraft comment m) ls))⟩ := by
    rw [← List.nil_append (start :: ls)]
    exact after_start rfl hstart hopen
  rw [obtained, emissions_start hstart, emissions_modern hopen, ← List.replicate_succ,
    findSome?_replicate_nothing, hafter]
  rfl

/-- An end marker completes it. -/
theorem obtained_of_closing {last : Text} {closes : Bool}
    (hlast : classify m last.chomp = .closing closes) :
    obtained (start :: (ls ++ [last])) =
      some (step (read m (openDraft comment m) ls) (.closing closes)).prologue := by
  have hpush := push_closing (d := read m (openDraft comment m) ls) hlast
  rw [obtained, emissions_start hstart, emissions_append, emissions_modern hopen,
    after_modern hopen, ← List.cons_append, ← List.replicate_succ, List.findSome?_append,
    findSome?_replicate_nothing, emissions, emissions, List.findSome?_singleton, hpush]
  rfl

end

/-- **What is obtained of a modern prologue**, with an end marker and without one. -/
theorem obtained_modern {start : Text} {comment : Bool} {ls : List Text}
    (hstart : opening? start.chomp = some (comment, m))
    (hopen : ∀ line ∈ ls.dropLast, (classify m line.chomp).isClosing = false) :
    ∃ p, obtained (start :: ls) = some p ∧ p.commentChar = [m.glyph] ∧ p.opensComment = comment ∧
      (p.closesComment = true ↔ ∃ last ∈ ls.getLast?, classify m last.chomp = .closing true) := by
  by_cases hall : ∀ line ∈ ls, (classify m line.chomp).isClosing = false
  · obtain ⟨hmarker, hopens, hcloses⟩ := comments_settle (read m (openDraft comment m) ls)
    rw [prologue_read hall] at hmarker hopens hcloses
    refine ⟨_, obtained_of_open hstart hall, hmarker, hopens, ?_⟩
    rw [hcloses]
    refine ⟨fun h => Bool.noConfusion h, fun ⟨last, hlast, hclosing⟩ => ?_⟩
    have hline := hall last (List.mem_of_getLast? hlast)
    rw [hclosing] at hline
    exact Bool.noConfusion hline
  · -- the end marker is the last line
    rcases List.eq_nil_or_concat ls with rfl | ⟨ks, last, rfl⟩
    · exact absurd (by simp) hall
    · rw [List.concat_eq_append, List.dropLast_concat] at hopen
      rw [List.concat_eq_append] at hall ⊢
      rw [List.forall_mem_append, not_and, List.forall_mem_singleton, Bool.not_eq_false] at hall
      obtain ⟨closes, hlast⟩ : ∃ closes, classify m last.chomp = .closing closes := by
        have hclosing := hall hopen
        cases hkind : classify m last.chomp with
        | closing closes => exact ⟨closes, rfl⟩
        | separator => simp [hkind, Line.isClosing] at hclosing
        | unmarked text => simp [hkind, Line.isClosing] at hclosing
        | heading name => simp [hkind, Line.isClosing] at hclosing
        | content text => simp [hkind, Line.isClosing] at hclosing
      obtain ⟨hmarker, hopens, hcloses⟩ := comments_settle { read m (openDraft comment m) ks with
        prologue := { (read m (openDraft comment m) ks).prologue with closesComment := closes } }
      have hbefore := prologue_read hopen (openDraft comment m)
      refine ⟨_, obtained_of_closing hstart hopen hlast, ?_, ?_, ?_⟩
      · exact hmarker.trans (congrArg Prologue.commentChar hbefore)
      · exact hopens.trans (congrArg Prologue.opensComment hbefore)
      · rw [step, hcloses]
        simp [hlast]

/-- **Indentation of a modern prologue.** Let the first of some lines open a modern prologue, and
let none of the lines between it and the last be an end marker. Put white space in front of each of
them, of any kind and length. The same comes of each line as without the white space, so that the
same line completes the prologue; behind any number of the lines the scanner is in the same state;
and the prologue that is obtained in the end, from an end marker or without one, is the same. -/
theorem margins_of_modern {w start : Text} {bs : List (Text × Text)} {comment : Bool}
    (hblank : ∀ b ∈ (w, start) :: bs, b.1.isBlank = true)
    (hstart : opening? start.chomp = some (comment, m))
    (hopen : ∀ b ∈ bs.dropLast, (classify m b.2.chomp).isClosing = false) :
    emissions {} (margined ((w, start) :: bs)) = emissions {} (bare ((w, start) :: bs)) ∧
    (∀ n, after {} ((margined ((w, start) :: bs)).take n) =
      after {} ((bare ((w, start) :: bs)).take n)) ∧
    ∃ p, obtained (bare ((w, start) :: bs)) = some p ∧
      obtained (margined ((w, start) :: bs)) = some p ∧
      p.commentChar = [m.glyph] ∧ p.opensComment = comment ∧
      (p.closesComment = true ↔ ∃ b ∈ bs.getLast?, classify m b.2.chomp = .closing true) := by
  obtain ⟨hw, hblank⟩ := List.forall_mem_cons.1 hblank
  have hmargined := opening?_margin hw hstart
  have hemissions : emissions {} (margined ((w, start) :: bs)) =
      emissions {} (bare ((w, start) :: bs)) := by
    show emissions {} ((w ++ start) :: margined bs) = emissions {} (start :: bare bs)
    rw [emissions_start hmargined, emissions_start hstart, (read_margined hblank hopen _).1]
  have hafter : ∀ n, after {} ((margined ((w, start) :: bs)).take n) =
      after {} ((bare ((w, start) :: bs)).take n) := by
    intro n
    cases n with
    | zero => rfl
    | succ n =>
      -- the first lines are lines of which only the last may be an end marker
      have hfirst : ∀ b ∈ (bs.take n).dropLast, (classify m b.2.chomp).isClosing = false := by
        rw [List.dropLast_take_eq_take_dropLast]
        exact fun b hb => hopen b (List.mem_of_mem_take hb)
      have hread := read_margined (fun b hb => hblank b (List.mem_of_mem_take hb)) hfirst
        (openDraft comment m)
      show ((w ++ start) :: (margined bs).take n).foldl _ _ =
        (start :: (bare bs).take n).foldl _ _
      rw [List.foldl_cons, List.foldl_cons, push_modern_start hmargined, push_modern_start hstart,
        margined, bare, ← List.map_take, ← List.map_take]
      exact hread.2
  refine ⟨hemissions, hafter, ?_⟩
  have hends : ∀ line ∈ (bare bs).dropLast, (classify m line.chomp).isClosing = false := by
    rw [bare, ← List.map_dropLast]
    exact List.forall_mem_map.2 hopen
  obtain ⟨p, hp, hmarker, hopens, hcloses⟩ := obtained_modern hstart hends
  have hall := hafter (bs.length + 1)
  rw [List.take_of_length_le (by simp [margined]), List.take_of_length_le (by simp [bare])] at hall
  refine ⟨p, hp, ?_, hmarker, hopens, ?_⟩
  · rw [obtained, hemissions, hall]
    exact hp
  · rw [hcloses, bare, List.getLast?_map]
    cases bs.getLast? <;> simp

/-- A prologue in a C comment whose markers are aligned, with an empty line that gets a margin and a
line that has no marker. -/
theorem margins_of_modern_comment : ∃ p,
    obtained ["/*+", "*  Name:", "*     FOO", "", "*  Notes:", "one", "*-*/"] = some p ∧
    obtained ["/*+", " *  Name:", "\t *     FOO", "  ", " *  Notes:", "      one", " *-*/"] = some p ∧
    p.commentChar = [Marker.star.glyph] ∧ p.opensComment = true ∧ p.closesComment = true := by
  let bs : List (Text × Text) := [(" ", "*  Name:"), ("\t ", "*     FOO"), ("  ", ""),
    (" ", "*  Notes:"), ("      ", "one"), (" ", "*-*/")]
  have hblank : ∀ b ∈ (([], "/*+") :: bs : List (Text × Text)), b.1.isBlank = true := by decide
  have hstart : opening? (Text.chomp "/*+") = some (true, .star) := by decide
  have hopen : ∀ b ∈ bs.dropLast, (classify .star b.2.chomp).isClosing = false := by
    decide +kernel
  obtain ⟨-, -, p, hbare, hmargined, hmarker, hopens, hcloses⟩ :=
    margins_of_modern hblank hstart hopen
  exact ⟨p, hbare, hmargined, hmarker, hopens, hcloses.2 ⟨_, rfl, by decide +kernel⟩⟩

end Scanner

end SourcePrologue

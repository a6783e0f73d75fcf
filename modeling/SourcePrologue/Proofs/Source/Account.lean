import SourcePrologue.Proofs.Source.Found
import SourcePrologue.Proofs.Source.Scan

/-!
# Every line accounted for

What taking a file apart makes of each of its lines.

* **`Scanner.visits`** — the lines with the state in which the scanner comes to each of them and
  with the lines behind it, which is the state behind the lines before (`mem_visits_iff`);
* **`Source.prologues_splitFrom`**, **`Source.ordinary_splitFrom`** — the prologues and the ordinary
  lines, from any state of the scanner;
* **`Source.split_eq_at_prologue`** — the parts around the end of a prologue;
* **`Source.split_visits`** — so every line is in its place once.
-/

namespace SourcePrologue

/-- The prologue that a reader completes with the lines it has yet to see, or has read when they
end. -/
def Reader.finish (r : Reader) : List Text → Prologue
  | [] => r.result
  | line :: ls => (r.push line.chomp).2.prologue.getD ((r.push line.chomp).1.finish ls)

namespace Scanner

/-! ### Visits -/

/-- A **visit** to a line: the scanner that comes to it, the line, and the lines behind it. -/
structure Visit where
  scanner : Scanner
  line : Text
  rest : List Text

/-- The visits to the lines that a scanner has yet to see. -/
def visits (s : Scanner) : List Text → List Visit
  | [] => []
  | line :: ls => ⟨s, line, ls⟩ :: (s.push line).1.visits ls

/-- The lines are visited one after another, each by the scanner behind the lines before it. -/
theorem mem_visits_iff {s : Scanner} {ls : List Text} {v : Visit} : v ∈ s.visits ls ↔
    ∃ before, ls = before ++ v.line :: v.rest ∧ v.scanner = s.after before := by
  induction ls generalizing s with
  | nil => simp [visits]
  | cons line ls ih =>
    rw [visits, List.mem_cons, ih]
    constructor
    · intro h
      rcases h with rfl | ⟨before, rfl, hscanner⟩
      · exact ⟨[], rfl, rfl⟩
      · exact ⟨line :: before, rfl, hscanner⟩
    · intro h
      obtain ⟨before, hls, hscanner⟩ := h
      cases before with
      | nil =>
        obtain ⟨hline, hrest⟩ := List.cons.inj hls
        left
        cases v
        simp_all [after]
      | cons first before =>
        obtain ⟨rfl, hrest⟩ := List.cons.inj hls
        exact Or.inr ⟨before, hrest, hscanner⟩

namespace Visit

/-- The reader of the prologue that the line opens, if it does so outside all prologues. -/
def opened? (v : Visit) : Option Reader :=
  match v.scanner.reader with
  | none => Reader.open? v.line.chomp
  | some _ => none

/-- Whether the line is ordinary: outside all prologues it is if it is no start line, in a modern
prologue never, and in a legacy prologue if it does not begin with the marker or is the heading that
introduces declarations. -/
def isOrdinary (v : Visit) : Bool :=
  match v.scanner.reader with
  | none => (Reader.open? v.line.chomp).isNone
  | some (.modern ..) => false
  | some (.legacy m _ _) =>
    v.line.chomp.head? != some m.glyph || Legacy.classify m v.line.chomp == .declaration

/-- A line is handed back if it is ordinary, and without its line end. -/
theorem line_push (v : Visit) : (v.scanner.push v.line).2.line =
    if v.isOrdinary then some v.line.chomp else none := by
  cases hreader : v.scanner.reader with
  | none =>
    rw [push_of_outside hreader, isOrdinary, hreader]
    cases Reader.open? v.line.chomp with
    | none => rfl
    | some r => rfl
  | some r =>
    rw [push_of_inside hreader]
    cases r with
    | modern m d =>
      rw [isOrdinary, hreader]
      rfl
    | legacy m seen d =>
      have hordinary : v.isOrdinary = true ↔ v.line.chomp.head? ≠ some m.glyph ∨
          Legacy.classify m v.line.chomp = .declaration := by
        simp [isOrdinary, hreader]
      show (Reader.push (.legacy m seen d) v.line.chomp).2.line = _
      by_cases h : v.isOrdinary = true
      · rw [if_pos h]
        exact Reader.line_iff.2 ⟨rfl, m, seen, d, rfl, hordinary.1 h⟩
      · rw [if_neg h, Option.eq_none_iff_forall_ne_some]
        intro t ht
        obtain ⟨-, m', seen', d', hr, hkind⟩ := Reader.line_iff.1 ht
        cases hr
        exact h (hordinary.2 hkind)

end Visit

end Scanner

namespace Source

open Scanner

/-! ### Prologues and ordinary lines -/

/-- The parts that come of lines while a scanner goes through them. -/
def partsOf (s : Scanner) : List Text → List Item
  | [] => []
  | line :: ls => items (s.push line).2 ++ partsOf (s.push line).1 ls

theorem splitFrom_append (s : Scanner) (ks ls : List Text) :
    splitFrom s (ks ++ ls) = partsOf s ks ++ splitFrom (s.after ks) ls := by
  induction ks generalizing s with
  | nil => rfl
  | cons line ks ih =>
    rw [List.cons_append, splitFrom_cons, ih, partsOf, List.append_assoc]
    rfl

theorem ordinary_items (emission : Emission) :
    ordinary (items emission) = emission.line.toList := by
  obtain ⟨line, p⟩ := emission
  cases line <;> cases p <;> rfl

theorem prologues_items (emission : Emission) :
    prologues (items emission) = emission.prologue.toList := by
  obtain ⟨line, p⟩ := emission
  cases line <;> cases p <;> rfl

/-- **The ordinary lines** that a scanner finds, each in its place. -/
theorem ordinary_splitFrom (s : Scanner) (ls : List Text) : ordinary (splitFrom s ls) =
    ((s.visits ls).filter Visit.isOrdinary).map (·.line.chomp) := by
  induction ls generalizing s with
  | nil =>
    rw [splitFrom]
    cases s.flush <;> rfl
  | cons line ls ih =>
    have hline := Visit.line_push ⟨s, line, ls⟩
    rw [splitFrom_cons, ordinary_append, ordinary_items, ih, visits, hline, List.filter_cons]
    split
    · rfl
    · rfl

/-- **The prologues** that a scanner finds: the one it is inside, and one for each line that opens
one. -/
theorem prologues_splitFrom (s : Scanner) (ls : List Text) : prologues (splitFrom s ls) =
    (s.reader.map (·.finish ls)).toList ++
      (s.visits ls).filterMap fun v => v.opened?.map (·.finish v.rest) := by
  induction ls generalizing s with
  | nil =>
    obtain ⟨reader⟩ := s
    cases reader <;> rfl
  | cons line ls ih =>
    rw [splitFrom_cons, prologues_append, prologues_items, ih, visits, List.filterMap_cons]
    cases hreader : s.reader with
    | none =>
      have hopened : Visit.opened? ⟨s, line, ls⟩ = Reader.open? line.chomp := by
        rw [Visit.opened?, hreader]
      rw [push_of_outside hreader, hopened]
      cases Reader.open? line.chomp with
      | none => simp [hreader]
      | some r => simp
    | some r =>
      have hopened : Visit.opened? ⟨s, line, ls⟩ = none := by
        rw [Visit.opened?, hreader]
      rw [push_of_inside hreader, hopened]
      cases hp : (r.push line.chomp).2.prologue with
      | none => simp [Reader.finish, hp]
      | some p => simp [Reader.finish, hp]

/-- **The parts around the end of a prologue**: the prologue comes behind what has come of the lines
before, a line that has ended it stands right behind it, and the rest is taken apart by itself. -/
theorem split_eq_at_prologue {before rest : List Text} {line : Text} {p : Prologue}
    (h : ((after {} before).push line).2.prologue = some p) :
    split (before ++ line :: rest) = partsOf {} before ++ .prologue p ::
      (((after {} before).push line).2.line.map .line).toList ++ split rest := by
  have houtside : ((after {} before).push line).1 = {} := by
    cases hnext : ((after {} before).push line).1 with
    | mk reader =>
      have hreader := outside_of_prologue h
      rw [hnext] at hreader
      exact congrArg Scanner.mk hreader
  rw [split, splitFrom_append, splitFrom_cons, houtside, items, h]
  simp [split]

/-- **Every line is accounted for.** A file has one prologue for each line that opens one outside
all prologues, in the order of these lines, completed by the lines behind it or read as far as they
go. Its ordinary lines are those visited as such, without their line ends and in order, each once:
no start line outside prologues, no line inside a modern prologue, and of a legacy prologue the lines
without its marker and the heading that introduces declarations. A line that ends a prologue without
being part of it stands right behind it. -/
theorem split_visits (ls : List Text) :
    prologues (split ls) =
      ((visits {} ls).filterMap fun v => v.opened?.map (·.finish v.rest)) ∧
    ordinary (split ls) = ((visits {} ls).filter Visit.isOrdinary).map (·.line.chomp) ∧
    ∀ before line rest p t, ls = before ++ line :: rest →
      ((after {} before).push line).2.prologue = some p →
      ((after {} before).push line).2.line = some t →
      split ls = partsOf {} before ++ .prologue p :: .line t :: split rest := by
  refine ⟨prologues_splitFrom {} ls, ordinary_splitFrom {} ls, ?_⟩
  rintro before line rest p t rfl hp ht
  rw [split_eq_at_prologue hp, ht]
  simp

end Source

end SourcePrologue

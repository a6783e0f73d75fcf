import Mathlib.Data.List.TakeDrop
import SourcePrologue.Proofs.Prologue.Credit

/-!
# Dates in a history

What a line of a history is dated with, told by where things stand in the line and not by a search:

* **`Text.firstMatch_eq_some_iff`**, **`Text.firstMatch_eq_none_iff`** — what a search finds;
* **`History.fullYear?_eq_some_iff`**, **`History.shortYear?_eq_some_iff`** — the texts that begin
  with a year of four digits, and those that begin with a date;
* **`History.Dates`** — the leftmost year of four digits, or else the year of the leftmost date,
  and **`History.year?_eq_some_iff`**, the year that is found in a line;
* **`Prologue.years_of_history`** — the years of a prologue are those of its history, whatever the
  order and the repetition of the lines.
-/

namespace SourcePrologue

/-! ### Searching a text -/

namespace Text

variable {α : Type} {f : Text → Option α}

/-- **Nothing is found** just in case there is nothing at any place. -/
theorem firstMatch_eq_none_iff {t : Text} :
    firstMatch f t = none ↔ ∀ rest, rest <:+ t → f rest = none := by
  induction t with
  | nil => simp [firstMatch]
  | cons g t ih =>
    simp only [firstMatch, List.suffix_cons_iff, forall_eq_or_imp, ← ih]
    cases f (g :: t) <;> simp

/-- **What is found** stands at the leftmost place: behind it is the longest of the tails of the
text that have something at their start. -/
theorem firstMatch_eq_some_iff {t : Text} {a : α} : firstMatch f t = some a ↔
    ∃ rest, rest <:+ t ∧ f rest = some a ∧
      ∀ longer, longer <:+ t → rest.length < longer.length → f longer = none := by
  induction t with
  | nil => simp [firstMatch]
  | cons g t ih =>
    rw [firstMatch]
    cases hhere : f (g :: t) with
    | some b =>
      constructor
      · intro h
        refine ⟨g :: t, List.suffix_rfl, hhere.trans h, fun longer hlonger hlt => ?_⟩
        exact absurd hlonger.length_le (Nat.not_le_of_lt hlt)
      · rintro ⟨rest, hrest, hfound, hfirst⟩
        rcases List.suffix_cons_iff.1 hrest with rfl | hrest
        · exact hhere.symm.trans hfound
        · have hnone := hfirst (g :: t) List.suffix_rfl (Nat.lt_succ_of_le hrest.length_le)
          rw [hhere] at hnone
          exact absurd hnone (Option.some_ne_none b)
    | none =>
      show firstMatch f t = some a ↔ _
      rw [ih]
      constructor
      · rintro ⟨rest, hrest, hfound, hfirst⟩
        refine ⟨rest, hrest.trans (List.suffix_cons g t), hfound, fun longer hlonger hlt => ?_⟩
        rcases List.suffix_cons_iff.1 hlonger with rfl | hlonger
        · exact hhere
        · exact hfirst longer hlonger hlt
      · rintro ⟨rest, hrest, hfound, hfirst⟩
        rcases List.suffix_cons_iff.1 hrest with rfl | hrest
        · exact absurd (hhere.symm.trans hfound).symm (Option.some_ne_none a)
        · exact ⟨rest, hrest, hfound, fun longer hlonger =>
            hfirst longer (hlonger.trans (List.suffix_cons g t))⟩

end Text

namespace History

/-! ### Numbers -/

/-- The number that decimal digits of any script stand for. -/
def IsNumber (ds : Text) (n : Nat) : Prop :=
  ∃ values : List Nat, ds.map Glyph.digit? = values.map some ∧
    n = values.foldl (fun n value => n * 10 + value) 0

/-- Every digit has a value. -/
theorem IsNumber.exists_values {ds : Text} {n : Nat} (h : IsNumber ds n) :
    ∃ values : List Nat, values.length = ds.length ∧ ds.map Glyph.digit? = values.map some ∧
      n = values.foldl (fun n value => n * 10 + value) 0 := by
  obtain ⟨values, hvalues, hn⟩ := h
  have hlength := congrArg List.length hvalues
  rw [List.length_map, List.length_map] at hlength
  exact ⟨values, hlength.symm, hvalues, hn⟩

/-- A text of digits, at least one. -/
def IsDigits (ds : Text) : Prop := ds ≠ [] ∧ ∀ g ∈ ds, g.isDigit = true

/-- What stands between the parts of a date. -/
def IsStroke (g : Glyph) : Prop := g = .char '/' ∨ g = .char '.'

theorem isDigit_of_isStroke {g : Glyph} (h : IsStroke g) : g.isDigit = false := by
  rcases h with rfl | rfl
  · decide
  · decide

/-! ### Years and dates at the start of a text -/

/-- Whether a text **begins with a year** of four digits. -/
def BeginsWithYear (t : Text) (year : Int) : Prop :=
  ∃ (ds tail : Text) (n : Nat), t = ds ++ tail ∧ ds.length = 4 ∧ IsNumber ds n ∧ year = n

/-- Whether a text **begins with a date**: two numbers, each with a stroke or full stop behind it,
and two digits, which stand for a year of one of two centuries. -/
def BeginsWithDate (t : Text) (year : Int) : Prop :=
  ∃ (day month ds tail : Text) (stroke stroke' : Glyph) (n : Nat),
    t = day ++ stroke :: (month ++ stroke' :: (ds ++ tail)) ∧
    IsDigits day ∧ IsStroke stroke ∧ IsDigits month ∧ IsStroke stroke' ∧
    ds.length = 2 ∧ IsNumber ds n ∧ year = if 50 < n then (1900 + n : Int) else 2000 + n

theorem fullYear?_eq_some_iff {t : Text} {year : Int} :
    fullYear? t = some year ↔ BeginsWithYear t year := by
  constructor
  · intro h
    unfold fullYear? at h
    split at h
    · next a b c d tail =>
      obtain ⟨va, ha, h⟩ := Option.bind_eq_some_iff.1 h
      obtain ⟨vb, hb, h⟩ := Option.bind_eq_some_iff.1 h
      obtain ⟨vc, hc, h⟩ := Option.bind_eq_some_iff.1 h
      obtain ⟨vd, hd, h⟩ := Option.bind_eq_some_iff.1 h
      refine ⟨[a, b, c, d], tail, ((va * 10 + vb) * 10 + vc) * 10 + vd, rfl, rfl,
        ⟨[va, vb, vc, vd], by simp [ha, hb, hc, hd], by simp⟩, (Option.some.inj h).symm⟩
    · exact absurd h.symm (Option.some_ne_none year)
  · rintro ⟨ds, tail, n, rfl, hlength, hnumber, rfl⟩
    obtain ⟨values, hcount, hvalues, rfl⟩ := hnumber.exists_values
    obtain ⟨a, b, c, d, rfl⟩ := List.length_eq_four.1 hlength
    obtain ⟨va, vb, vc, vd, rfl⟩ := List.length_eq_four.1 (hcount.trans hlength)
    simp only [List.map_cons, List.map_nil, List.cons.injEq, and_true] at hvalues
    obtain ⟨ha, hb, hc, hd⟩ := hvalues
    simp [fullYear?, ha, hb, hc, hd]

/-- A part of a date ends at its stroke, since that is no digit. -/
theorem afterDatePart?_append {ds : Text} {stroke : Glyph} (hds : IsDigits ds)
    (hstroke : IsStroke stroke) (u : Text) : afterDatePart? (ds ++ stroke :: u) = some u := by
  have hstop : stroke.isDigit = false := isDigit_of_isStroke hstroke
  have htake : (ds ++ stroke :: u).takeWhile Glyph.isDigit = ds := by
    rw [List.takeWhile_append_of_pos hds.2, List.takeWhile_cons_of_neg (by simp [hstop]),
      List.append_nil]
  have hdrop : (ds ++ stroke :: u).dropWhile Glyph.isDigit = stroke :: u := by
    rw [List.dropWhile_append_of_pos hds.2, List.dropWhile_cons_of_neg (by simp [hstop])]
  obtain ⟨g, rest, hcons⟩ := List.exists_cons_of_ne_nil hds.1
  rw [afterDatePart?, htake, hdrop, hcons]
  rcases hstroke with rfl | rfl
  · rfl
  · rfl

theorem exists_of_afterDatePart? {t u : Text} (h : afterDatePart? t = some u) :
    ∃ ds stroke, t = ds ++ stroke :: u ∧ IsDigits ds ∧ IsStroke stroke := by
  unfold afterDatePart? at h
  split at h
  · next g ds c rest htake hdrop =>
    split at h
    · next hstroke =>
      refine ⟨g :: ds, .char c, ?_, ⟨List.cons_ne_nil g ds, fun x hx => ?_⟩, ?_⟩
      · rw [← htake, ← Option.some.inj h, ← hdrop, List.takeWhile_append_dropWhile]
      · rw [← htake] at hx
        exact List.mem_takeWhile_imp hx
      · exact hstroke.imp (congrArg Glyph.char) (congrArg Glyph.char)
    · exact absurd h.symm (Option.some_ne_none u)
  · exact absurd h.symm (Option.some_ne_none u)

theorem shortYear?_eq_some_iff {t : Text} {year : Int} :
    shortYear? t = some year ↔ BeginsWithDate t year := by
  constructor
  · intro h
    rw [shortYear?] at h
    obtain ⟨u, hu, hu'⟩ := Option.bind_eq_some_iff.1 h
    obtain ⟨v, hv, hyear⟩ := Option.bind_eq_some_iff.1 hu'
    obtain ⟨day, stroke, rfl, hday, hstroke⟩ := exists_of_afterDatePart? hu
    obtain ⟨month, stroke', rfl, hmonth, hstroke'⟩ := exists_of_afterDatePart? hv
    split at hyear
    · next a b tail =>
      obtain ⟨va, ha, hb⟩ := Option.bind_eq_some_iff.1 hyear
      obtain ⟨vb, hb, hcentury⟩ := Option.bind_eq_some_iff.1 hb
      have hnumber : IsNumber [a, b] (va * 10 + vb) := ⟨[va, vb], by simp [ha, hb], by simp⟩
      exact ⟨day, month, [a, b], tail, stroke, stroke', va * 10 + vb, rfl, hday, hstroke, hmonth,
        hstroke', rfl, hnumber, (Option.some.inj hcentury).symm⟩
    · exact absurd hyear.symm (Option.some_ne_none year)
  · rintro ⟨day, month, ds, tail, stroke, stroke', n, rfl, hday, hstroke, hmonth, hstroke', hlength,
      hnumber, rfl⟩
    obtain ⟨values, hcount, hvalues, rfl⟩ := hnumber.exists_values
    obtain ⟨a, b, rfl⟩ := List.length_eq_two.1 hlength
    obtain ⟨va, vb, rfl⟩ := List.length_eq_two.1 (hcount.trans hlength)
    simp only [List.map_cons, List.map_nil, List.cons.injEq, and_true] at hvalues
    simp only [shortYear?, afterDatePart?_append hday hstroke,
      afterDatePart?_append hmonth hstroke', Option.bind_eq_bind, Option.bind_some, List.cons_append,
      List.nil_append, hvalues.1, hvalues.2, century, List.foldl_cons, List.foldl_nil, Nat.zero_mul,
      Nat.zero_add]

/-! ### The date of a line -/

/-- A value stands at the **leftmost** place of a text where a property holds: none holds of a tail
of the text that begins before it. -/
def IsLeftmost (P : Text → Int → Prop) (line : Text) (year : Int) : Prop :=
  ∃ rest, rest <:+ line ∧ P rest year ∧
    ∀ longer, longer <:+ line → rest.length < longer.length → ∀ other, ¬P longer other

/-- A line **dates** its entry: with the leftmost year of four digits that it holds, or, if it holds
no such year, with the year of its leftmost date. -/
inductive Dates (line : Text) (year : Int) : Prop where
  | full (h : IsLeftmost BeginsWithYear line year)
  | short (hnone : ∀ rest, rest <:+ line → ∀ other, ¬BeginsWithYear rest other)
      (h : IsLeftmost BeginsWithDate line year)

section

variable {f : Text → Option Int} {P : Text → Int → Prop} (h : ∀ t year, f t = some year ↔ P t year)
  {line : Text} {year : Int}

include h

theorem eq_none_iff_forall {t : Text} : f t = none ↔ ∀ other, ¬P t other := by
  rw [Option.eq_none_iff_forall_ne_some]
  exact forall_congr' fun other => not_congr (h t other)

/-- A search finds the value at the leftmost place. -/
theorem firstMatch_iff_isLeftmost :
    Text.firstMatch f line = some year ↔ IsLeftmost P line year := by
  rw [Text.firstMatch_eq_some_iff]
  simp only [eq_none_iff_forall h, h]
  rfl

end

/-- **The year that is found in a line** is the one that the line dates its entry with. -/
theorem year?_eq_some_iff {line : Text} {year : Int} :
    year? line = some year ↔ Dates line year := by
  have hfull : ∀ year, Text.firstMatch fullYear? line = some year ↔
      IsLeftmost BeginsWithYear line year :=
    fun _ => firstMatch_iff_isLeftmost fun _ _ => fullYear?_eq_some_iff
  have hshort : ∀ year, Text.firstMatch shortYear? line = some year ↔
      IsLeftmost BeginsWithDate line year :=
    fun _ => firstMatch_iff_isLeftmost fun _ _ => shortYear?_eq_some_iff
  rw [year?]
  cases hfound : Text.firstMatch fullYear? line with
  | some found =>
    constructor
    · intro h
      exact .full ((hfull year).1 (hfound.trans h))
    · rintro (h | ⟨hnone, -⟩)
      · exact hfound.symm.trans ((hfull year).2 h)
      · obtain ⟨rest, hrest, hyear, -⟩ := (hfull found).1 hfound
        exact absurd hyear (hnone rest hrest found)
  | none =>
    have hnone := Text.firstMatch_eq_none_iff.1 hfound
    constructor
    · intro h
      refine .short (fun rest hrest => ?_) ((hshort year).1 h)
      exact (eq_none_iff_forall (P := BeginsWithYear) fun _ _ => fullYear?_eq_some_iff).1
        (hnone rest hrest)
    · rintro (h | ⟨-, h⟩)
      · exact absurd (hfound.symm.trans ((hfull year).2 h)).symm (Option.some_ne_none year)
      · exact (hshort year).2 h

/-- The search goes on inside of what begins like a date and is none. -/
example : year? (Text.ofString "1/2/3/45") = some 2045 := by decide +kernel

end History

namespace Prologue

theorem mem_years_iff {p : Prologue} {year : Int} :
    year ∈ p.years ↔ ∃ line ∈ p.content "History", History.Dates line year := by
  simp only [years, mem_ascending, List.mem_filterMap, History.year?_eq_some_iff]

/-- **The years of a history** ascend, each once, and they are those that its lines date their
entries with, of which a line has one at most. They do not depend on the order of the lines, nor on
how often a line is repeated. -/
theorem years_of_history (p : Prologue) :
    p.years.Pairwise (· < ·) ∧
    (∀ year, year ∈ p.years ↔ ∃ line ∈ p.content "History", History.Dates line year) ∧
    (∀ line year other, History.Dates line year → History.Dates line other → year = other) ∧
    ∀ q : Prologue, (∀ line, line ∈ q.content "History" ↔ line ∈ p.content "History") →
      q.years = p.years := by
  refine ⟨p.years_pairwise, fun year => mem_years_iff, fun line year other hyear hother => ?_,
    fun q hq => ?_⟩
  · rw [← History.year?_eq_some_iff] at hyear hother
    exact Option.some.inj (hyear.symm.trans hother)
  · refine q.years_pairwise.eq_of_mem_iff p.years_pairwise fun year => ?_
    simp only [mem_years_iff, hq]

end Prologue

end SourcePrologue

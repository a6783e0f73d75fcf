import Mathlib.Data.List.Basic
import SourcePrologue.Copyright.YearRun

/-!
# Maximal runs of years

Ascending years are cut into runs that hold these years and no others, and that cannot be joined:
between two runs there is a year that is missing.

* **`IsMaximal`** — such runs, in order, and **`IsMaximal.two_mul_length_le`**, how many of them
  there are at most;
* **`isMaximal_runs`** — the runs of ascending years are maximal;
* **`exists_mem_runs_iff`** — and they hold exactly these years.
-/

namespace SourcePrologue.Copyright

/-- A year is in a run if it lies between its ends. -/
instance : Membership Int YearRun := ⟨fun r year => r.first ≤ year ∧ year ≤ r.last⟩

instance (year : Int) (r : YearRun) : Decidable (year ∈ r) :=
  inferInstanceAs (Decidable (r.first ≤ year ∧ year ≤ r.last))

theorem YearRun.mem_iff {year : Int} {r : YearRun} :
    year ∈ r ↔ r.first ≤ year ∧ year ≤ r.last := Iff.rfl

/-- **Maximal** runs: each holds a year, and between each two of them at least one is missing. -/
structure IsMaximal (rs : List YearRun) : Prop where
  inhabited : ∀ r ∈ rs, r.first ≤ r.last
  apart : rs.Pairwise fun r s => r.last + 1 < s.first

/-- **There is not room for many runs**: between two of them a year is missing. -/
theorem IsMaximal.two_mul_length_le {rs : List YearRun} (h : IsMaximal rs) {low high : Int}
    (hwithin : ∀ r ∈ rs, low ≤ r.first ∧ r.last ≤ high) (hlow : low ≤ high + 2) :
    2 * (rs.length : Int) ≤ high - low + 2 := by
  induction rs generalizing low with
  | nil =>
    rw [List.length_nil]
    omega
  | cons r rs ih =>
    obtain ⟨hlater, hrest⟩ := List.pairwise_cons.1 h.apart
    obtain ⟨hbegun, hinhabited⟩ := List.forall_mem_cons.1 h.inhabited
    obtain ⟨hr, hothers⟩ := List.forall_mem_cons.1 hwithin
    have hbehind : ∀ s ∈ rs, r.last + 2 ≤ s.first ∧ s.last ≤ high := by
      intro s hs
      have hapart := hlater s hs
      exact ⟨by omega, (hothers s hs).2⟩
    have hlength := ih ⟨hinhabited, hrest⟩ hbehind (by omega)
    rw [List.length_cons, Int.natCast_succ]
    omega

/-! ### Runs that go on from a run -/

section

variable {first last : Int} {years : List Int}

theorem runsFrom_ne_nil : runsFrom first last years ≠ [] := by
  induction years generalizing first last with
  | nil => exact List.cons_ne_nil _ _
  | cons year years ih =>
    rw [runsFrom]
    split
    · exact List.cons_ne_nil _ _
    · exact ih

/-- No run begins before the one that the others go on from. -/
theorem first_le_of_mem_runsFrom (hbegun : first ≤ last)
    (hyears : (last :: years).Pairwise (· < ·)) :
    ∀ r ∈ runsFrom first last years, first ≤ r.first := by
  induction years generalizing first last with
  | nil => simp [runsFrom]
  | cons year years ih =>
    obtain ⟨hlater, hrest⟩ := List.pairwise_cons.1 hyears
    have hyear : last < year := hlater year List.mem_cons_self
    rw [runsFrom]
    split
    · intro r hr
      rcases List.mem_cons.1 hr with rfl | hr
      · exact Int.le_refl first
      · have hfirst := ih (Int.le_refl year) hrest r hr
        omega
    · exact ih (by omega) hrest

/-- **Runs that go on from a run are maximal.** A year next to the last one makes the run longer,
and any later year begins another one. -/
theorem isMaximal_runsFrom (hbegun : first ≤ last) (hyears : (last :: years).Pairwise (· < ·)) :
    IsMaximal (runsFrom first last years) := by
  induction years generalizing first last with
  | nil => exact ⟨by simpa [runsFrom] using hbegun, by simp [runsFrom]⟩
  | cons year years ih =>
    obtain ⟨hlater, hrest⟩ := List.pairwise_cons.1 hyears
    have hyear : last < year := hlater year List.mem_cons_self
    rw [runsFrom]
    split
    · next hgap =>
      have hnext := ih (Int.le_refl year) hrest
      refine ⟨List.forall_mem_cons.2 ⟨hbegun, hnext.inhabited⟩, ?_⟩
      refine List.pairwise_cons.2 ⟨fun r hr => ?_, hnext.apart⟩
      have hfirst := first_le_of_mem_runsFrom (Int.le_refl year) hrest r hr
      show last + 1 < r.first
      omega
    · exact ih (by omega) hrest

/-- Runs that go on from a run hold its years and the later ones. -/
theorem exists_mem_runsFrom_iff (hbegun : first ≤ last)
    (hyears : (last :: years).Pairwise (· < ·)) {year : Int} :
    (∃ r ∈ runsFrom first last years, year ∈ r) ↔
      (first ≤ year ∧ year ≤ last) ∨ year ∈ years := by
  induction years generalizing first last with
  | nil => simp [runsFrom, YearRun.mem_iff]
  | cons next years ih =>
    obtain ⟨hlater, hrest⟩ := List.pairwise_cons.1 hyears
    have hnext : last < next := hlater next List.mem_cons_self
    rw [runsFrom]
    split
    · rw [List.exists_mem_cons_iff, ih (Int.le_refl next) hrest, YearRun.mem_iff, List.mem_cons]
      have hsingle : next ≤ year ∧ year ≤ next ↔ year = next := by omega
      rw [hsingle]
    · next hadjacent =>
      rw [ih (by omega) hrest, List.mem_cons, ← or_assoc]
      have hlonger : first ≤ year ∧ year ≤ next ↔ (first ≤ year ∧ year ≤ last) ∨ year = next := by
        omega
      rw [hlonger]

end

/-! ### Runs of ascending years -/

variable {years : List Int}

/-- **The runs of ascending years are maximal.** -/
theorem isMaximal_runs (h : years.Pairwise (· < ·)) : IsMaximal (runs years) := by
  cases years with
  | nil => exact ⟨by simp [runs], by simp [runs]⟩
  | cons year years => exact isMaximal_runsFrom (Int.le_refl year) h

/-- **The runs of ascending years** hold these years and no others. -/
theorem exists_mem_runs_iff (h : years.Pairwise (· < ·)) {year : Int} :
    (∃ r ∈ runs years, year ∈ r) ↔ year ∈ years := by
  cases years with
  | nil => simp [runs]
  | cons first years =>
    rw [runs, exists_mem_runsFrom_iff (Int.le_refl first) h, List.mem_cons]
    have hsingle : first ≤ year ∧ year ≤ first ↔ year = first := by omega
    rw [hsingle]

theorem runs_ne_nil (h : years ≠ []) : runs years ≠ [] := by
  obtain ⟨year, rest, rfl⟩ := List.exists_cons_of_ne_nil h
  exact runsFrom_ne_nil

/-- Runs begin and end with years that they were made of. -/
theorem ends_mem_of_mem_runs (h : years.Pairwise (· < ·)) {r : YearRun} (hr : r ∈ runs years) :
    r.first ≤ r.last ∧ r.first ∈ years ∧ r.last ∈ years := by
  have hbegun := (isMaximal_runs h).inhabited r hr
  refine ⟨hbegun, (exists_mem_runs_iff h).1 ⟨r, hr, ?_⟩, (exists_mem_runs_iff h).1 ⟨r, hr, ?_⟩⟩
  · exact ⟨Int.le_refl _, hbegun⟩
  · exact ⟨hbegun, Int.le_refl _⟩

end SourcePrologue.Copyright

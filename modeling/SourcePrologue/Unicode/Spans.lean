/-!
# Spans

A property of characters is a table: the code points that have it, as ascending **spans**. The
tables of this folder hold the properties that the library reads, as version 14.0 of the Unicode
Character Database gives them.
-/

namespace SourcePrologue.Unicode

/-- A set of code points as spans `(first, last)`, both ends included, in ascending order. -/
abbrev Spans := List (Nat × Nat)

/-- Membership. The spans ascend, so the search ends at the first one that begins beyond `n`. -/
def Spans.has : Spans → Nat → Bool
  | [], _ => false
  | (first, last) :: rest, n => if n < first then false else n ≤ last || Spans.has rest n

/-- A member lies in one of the spans. -/
theorem Spans.exists_of_has {s : Spans} {n : Nat} (h : s.has n = true) :
    ∃ p ∈ s, p.1 ≤ n ∧ n ≤ p.2 := by
  induction s with
  | nil => simp [Spans.has] at h
  | cons p rest ih =>
    simp only [Spans.has] at h
    split at h
    · simp at h
    · simp only [Bool.or_eq_true, decide_eq_true_eq] at h
      rcases h with hp | hr
      · exact ⟨p, by simp, by omega, hp⟩
      · obtain ⟨q, hq, hn⟩ := ih hr
        exact ⟨q, by simp [hq], hn⟩

end SourcePrologue.Unicode

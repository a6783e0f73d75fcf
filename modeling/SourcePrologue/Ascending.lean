/-!
# Ascending lists

A set whose order shows is kept as a strictly ascending list. `insertAscending` puts one element
in its place and leaves a list that has it already as it is; `ascending` does so for all elements
of a list, so the order and the repetition of the elements do not matter. Main statements: what is
in such a list (`mem_ascending`), and that it ascends (`pairwise_ascending`).
-/

namespace SourcePrologue

variable {α : Type} [LT α] [DecidableEq α] [DecidableLT α]

/-- An ascending list with one more element. -/
def insertAscending (a : α) : List α → List α
  | [] => [a]
  | b :: l => if a < b then a :: b :: l else if a = b then b :: l else b :: insertAscending a l

/-- The distinct elements of a list in ascending order. -/
def ascending (l : List α) : List α := l.foldl (fun sorted a => insertAscending a sorted) []

theorem mem_insertAscending {a b : α} {l : List α} :
    b ∈ insertAscending a l ↔ b = a ∨ b ∈ l := by
  induction l with
  | nil => simp [insertAscending]
  | cons c l ih =>
    simp only [insertAscending]
    split
    · simp
    · split
      · next h => subst h; simp
      · rw [List.mem_cons, ih, List.mem_cons]
        constructor
        · rintro (h | h | h) <;> simp [h]
        · rintro (h | h | h) <;> simp [h]

theorem mem_ascending {b : α} {l : List α} : b ∈ ascending l ↔ b ∈ l := by
  suffices h : ∀ sorted : List α,
      b ∈ l.foldl (fun sorted a => insertAscending a sorted) sorted ↔ b ∈ sorted ∨ b ∈ l by
    simpa [ascending] using h []
  induction l with
  | nil => simp
  | cons a l ih =>
    intro sorted
    rw [List.foldl_cons, ih, mem_insertAscending, List.mem_cons]
    constructor
    · rintro ((h | h) | h) <;> simp [h]
    · rintro (h | h | h) <;> simp [h]

section

variable (htrans : ∀ {a b c : α}, a < b → b < c → a < c)
  (htotal : ∀ a b : α, a < b ∨ a = b ∨ b < a)

include htrans htotal

theorem pairwise_insertAscending {a : α} {l : List α} (h : l.Pairwise (· < ·)) :
    (insertAscending a l).Pairwise (· < ·) := by
  induction l with
  | nil => simp [insertAscending]
  | cons b l ih =>
    have hb := List.pairwise_cons.1 h
    simp only [insertAscending]
    split
    · next hlt =>
      refine List.pairwise_cons.2 ⟨fun c hc => ?_, h⟩
      rcases List.mem_cons.1 hc with rfl | hc
      · exact hlt
      · exact htrans hlt (hb.1 c hc)
    · next hlt =>
      split
      · exact h
      · next hne =>
        refine List.pairwise_cons.2 ⟨fun c hc => ?_, ih hb.2⟩
        rcases mem_insertAscending.1 hc with rfl | hc
        · exact ((htotal b c).resolve_right fun h => h.elim (fun h => hne h.symm) hlt)
        · exact hb.1 c hc

/-- An order without ties makes an ascending list of the elements of any list. -/
theorem pairwise_ascending (l : List α) : (ascending l).Pairwise (· < ·) := by
  suffices h : ∀ sorted : List α, sorted.Pairwise (· < ·) →
      (l.foldl (fun sorted a => insertAscending a sorted) sorted).Pairwise (· < ·) from
    h [] List.Pairwise.nil
  induction l with
  | nil => exact fun _ h => h
  | cons a l ih =>
    intro sorted h
    exact ih _ (pairwise_insertAscending htrans htotal h)

end

end SourcePrologue

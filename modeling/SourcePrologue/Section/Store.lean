import SourcePrologue.Text.Glyph

/-!
# The sections of a prologue

`Sections` maps names to lines. A section without lines does not exist, and the names ascend, so two
stores with the same sections are the same list of entries. Main statements: what a store holds
after a write (`find_set`) and after a removal (`find_erase`).
-/

namespace SourcePrologue

/-- A finite map from names to non-empty lists of lines, in strictly **ascending** order of names. -/
@[ext] structure Sections where
  entries : List (Text × List Text)
  ascending : entries.Pairwise fun a b => a.1 < b.1
  inhabited : ∀ e ∈ entries, e.2 ≠ []

namespace Sections

/-- No sections. -/
def empty : Sections := ⟨[], List.Pairwise.nil, by simp⟩

instance : Inhabited Sections := ⟨empty⟩

/-- The names of the sections, ascending. -/
def names (s : Sections) : List Text := s.entries.map (·.1)

/-- The lines of the entry with a given name, none if there is no such entry. -/
def linesOf (name : Text) : List (Text × List Text) → List Text
  | [] => []
  | e :: rest => if e.1 = name then e.2 else linesOf name rest

/-- The lines of a section, none if it does not exist. -/
def find (s : Sections) (name : Text) : List Text := linesOf name s.entries

/-- Whether a section exists. -/
def has (s : Sections) (name : Text) : Bool := !(s.find name).isEmpty

/-- Entries with one more entry in its place, or with its lines replaced. -/
def put (name : Text) (ls : List Text) : List (Text × List Text) → List (Text × List Text)
  | [] => [(name, ls)]
  | e :: rest =>
    if name < e.1 then (name, ls) :: e :: rest
    else if name = e.1 then (name, ls) :: rest
    else e :: put name ls rest

theorem mem_put {name : Text} {ls : List Text} {es : List (Text × List Text)}
    {e : Text × List Text} (h : e ∈ put name ls es) : e = (name, ls) ∨ e ∈ es := by
  induction es with
  | nil => simpa [put] using h
  | cons f rest ih =>
    simp only [put] at h
    split at h
    · simpa using h
    · split at h
      · rcases List.mem_cons.1 h with h | h
        · exact Or.inl h
        · exact Or.inr (List.mem_cons_of_mem _ h)
      · rcases List.mem_cons.1 h with h | h
        · exact Or.inr (by simp [h])
        · rcases ih h with h | h
          · exact Or.inl h
          · exact Or.inr (List.mem_cons_of_mem _ h)

theorem pairwise_put {name : Text} {ls : List Text} {es : List (Text × List Text)}
    (h : es.Pairwise fun a b => a.1 < b.1) : (put name ls es).Pairwise fun a b => a.1 < b.1 := by
  induction es with
  | nil => simp [put]
  | cons f rest ih =>
    have hf := List.pairwise_cons.1 h
    simp only [put]
    split
    · next hlt =>
      refine List.pairwise_cons.2 ⟨?_, h⟩
      intro e he
      rcases List.mem_cons.1 he with rfl | he
      · exact hlt
      · exact Text.lt_trans hlt (hf.1 e he)
    · next hlt =>
      split
      · next heq =>
        refine List.pairwise_cons.2 ⟨?_, hf.2⟩
        intro e he
        show name < e.1
        rw [heq]
        exact hf.1 e he
      · next hne =>
        refine List.pairwise_cons.2 ⟨?_, ih hf.2⟩
        intro e he
        rcases mem_put he with rfl | he
        · rcases Text.lt_or_eq_or_gt f.1 name with h | h | h
          · exact h
          · exact absurd h.symm hne
          · exact absurd h hlt
        · exact hf.1 e he

/-- The sections without one of them. -/
def erase (s : Sections) (name : Text) : Sections where
  entries := s.entries.filter (·.1 != name)
  ascending := s.ascending.filter _
  inhabited e he := s.inhabited e (List.mem_filter.1 he).1

/-- The sections with the lines of one of them replaced; without lines it ceases to exist. -/
def set (s : Sections) (name : Text) (ls : List Text) : Sections :=
  if h : ls = [] then s.erase name
  else
    { entries := put name ls s.entries
      ascending := pairwise_put s.ascending
      inhabited := by
        intro e he
        rcases mem_put he with rfl | he
        · exact h
        · exact s.inhabited e he }

theorem linesOf_put (name other : Text) (ls : List Text) (es : List (Text × List Text)) :
    linesOf other (put name ls es) = if other = name then ls else linesOf other es := by
  induction es with
  | nil => simp [put, linesOf, eq_comm]
  | cons f rest ih =>
    simp only [put]
    split
    · by_cases h : name = other <;> simp [linesOf, h, eq_comm]
    · split
      · next heq =>
        subst heq
        by_cases h : f.1 = other
        · simp [linesOf, h]
        · simp [linesOf, h, Ne.symm h]
      · next hne =>
        by_cases h : f.1 = other
        · subst h
          simp [linesOf, Ne.symm hne]
        · simp [linesOf, h, ih]

theorem linesOf_filter (name other : Text) (es : List (Text × List Text)) :
    linesOf other (es.filter (·.1 != name)) = if other = name then [] else linesOf other es := by
  induction es with
  | nil => simp [linesOf]
  | cons f rest ih =>
    by_cases hf : f.1 = name
    · have : ((f :: rest).filter (·.1 != name)) = rest.filter (·.1 != name) := by simp [hf]
      rw [this, ih]
      by_cases h : other = name
      · simp [h]
      · simp [linesOf, h, hf, Ne.symm h]
    · have : ((f :: rest).filter (·.1 != name)) = f :: rest.filter (·.1 != name) := by simp [hf]
      rw [this]
      by_cases h : f.1 = other
      · have hne : other ≠ name := h ▸ hf
        simp [linesOf, h, hne]
      · simp [linesOf, h, ih]

/-- A written section holds the lines written, and the others what they held before. -/
theorem find_set (s : Sections) (name other : Text) (ls : List Text) :
    (s.set name ls).find other = if other = name then ls else s.find other := by
  unfold set
  split
  · next h =>
    subst h
    exact linesOf_filter name other s.entries
  · exact linesOf_put name other ls s.entries

/-- An erased section holds no lines, and the others what they held before. -/
theorem find_erase (s : Sections) (name other : Text) :
    (s.erase name).find other = if other = name then [] else s.find other :=
  linesOf_filter name other s.entries

end Sections

end SourcePrologue

import SourcePrologue.Proofs.Section.Blocks
import SourcePrologue.Proofs.Section.Name
import SourcePrologue.Prologue.Written

/-!
# The written order

The order in which a prologue is written is a fixed row of standard names, with the other names of
the prologue at one place in it.

* **`Prologue.order_eq`** — the row before the other names, the other names, and the row behind;
* **`Prologue.order_nodup`** — no name stands in the order twice;
* **`Prologue.mem_order_iff`** — it holds the standard names and the other names of the prologue,
  whether the prologue documents an ADAM task or not.
-/

namespace SourcePrologue

namespace Standard

/-- The place of a standard name: in the documentation of an ADAM task the arguments stand before
the description. -/
def place (adam : Bool) (name : Text) : List Text :=
  if adam then
    if name = Text.ofString "Description" then [Text.ofString "Arguments", name]
    else if name = Text.ofString "Arguments" then []
    else [name]
  else [name]

/-- The standard names before the other ones. -/
def leading (adam : Bool) : List Text := (written.take 19).flatMap (place adam)

/-- The standard names behind the other ones. -/
def trailing : List Text := written.drop 19

theorem leading_append_trailing : leading false ++ trailing = written := by
  have hplace : leading false = written.take 19 := List.flatMap_singleton' _
  rw [hplace, trailing, List.take_append_drop]

/-- The order of an ADAM task has the same names. -/
theorem leading_perm (adam : Bool) : (leading adam).Perm (leading false) := by
  cases adam with
  | false => exact List.Perm.refl _
  | true => exact List.isPerm_iff.1 (by decide +kernel)

theorem written_nodup : written.Nodup := by decide +kernel

theorem mem_names_iff {name : Text} :
    name ∈ names ↔ name ∈ written ∨ ∃ e ∈ aliases, e.2 = name := by
  rw [names, mem_ascending, List.mem_append, List.mem_map]

theorem written_subset_names : ∀ name ∈ written, name ∈ names := fun _ h =>
  mem_names_iff.2 (Or.inl h)

theorem isLabel_of_mem_written {name : Text} (h : name ∈ written) : SectionName.IsLabel name :=
  SectionName.isLabel_of_mem_names name (written_subset_names name h)

end Standard

namespace Prologue

open Standard

/-- A prologue whose sections are stored under canonical names. -/
def IsCanonical (p : Prologue) : Prop :=
  ∀ name ∈ p.sectionNames, SectionName.canonical name = name

/-- A prologue whose sections are stored under labels. -/
def Labelled (p : Prologue) : Prop := ∀ name ∈ p.sectionNames, SectionName.IsLabel name

theorem Labelled.isCanonical {p : Prologue} (hp : p.Labelled) : p.IsCanonical :=
  fun name hname => (hp name hname).canonical

theorem mem_sectionNames_iff {p : Prologue} {name : Text} :
    name ∈ p.sectionNames ↔ p.sections.find name ≠ [] :=
  Sections.mem_names_iff

theorem mem_otherNames_iff {p : Prologue} {name : Text} :
    name ∈ p.otherNames ↔ p.sections.find name ≠ [] ∧ name ∉ Standard.names := by
  rw [otherNames, List.mem_filter, mem_sectionNames_iff]
  simp

theorem otherNames_pairwise (p : Prologue) : p.otherNames.Pairwise (· < ·) :=
  p.sections.names_pairwise.filter _

/-- **The written order**: the other names stand between two rows of standard names. -/
theorem order_eq (p : Prologue) :
    p.order = leading p.isAdamTask ++ (p.otherNames ++ trailing) := by
  rw [order]
  generalize p.otherNames = others
  cases p.isAdamTask with
  | false => rfl
  | true => rfl

theorem mem_order_iff {p : Prologue} {name : Text} :
    name ∈ p.order ↔ name ∈ written ∨ name ∈ p.otherNames := by
  rw [order_eq, List.mem_append, List.mem_append, (leading_perm p.isAdamTask).mem_iff,
    ← leading_append_trailing, List.mem_append]
  constructor
  · intro h
    rcases h with h | h | h
    · exact Or.inl (Or.inl h)
    · exact Or.inr h
    · exact Or.inl (Or.inr h)
  · intro h
    rcases h with (h | h) | h
    · exact Or.inl h
    · exact Or.inr (Or.inr h)
    · exact Or.inr (Or.inl h)

theorem order_nodup (p : Prologue) : p.order.Nodup := by
  have hothers : p.otherNames.Nodup := p.sections.names_nodup.filter _
  have hwritten : (leading p.isAdamTask ++ trailing).Nodup := by
    have hperm := (leading_perm p.isAdamTask).append_right trailing
    rw [hperm.nodup_iff, leading_append_trailing]
    exact written_nodup
  have hnames : ∀ name ∈ leading p.isAdamTask ++ trailing, name ∉ p.otherNames := by
    intro name hname hother
    have hperm := (leading_perm p.isAdamTask).append_right trailing
    rw [hperm.mem_iff, leading_append_trailing] at hname
    exact (mem_otherNames_iff.1 hother).2 (written_subset_names name hname)
  -- the other names may as well stand behind both rows
  have hmove : p.order.Perm ((leading p.isAdamTask ++ trailing) ++ p.otherNames) := by
    rw [order_eq, List.append_assoc]
    exact List.perm_append_comm.append_left _
  rw [hmove.nodup_iff, List.nodup_append]
  refine ⟨hwritten, hothers, ?_⟩
  intro a ha b hb hab
  rw [hab] at ha
  exact hnames b ha hb

end Prologue

end SourcePrologue

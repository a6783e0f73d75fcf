import SourcePrologue.Proofs.Prologue.BlockText
import SourcePrologue.Proofs.Prologue.Echo

/-!
# Blank lines that do not show

A section is **hollow** if it is populated with blank lines only. `Prologue.cleared` is a prologue
without its hollow sections and without the blank edges of the others, and the question is when the
two are written alike. A hollow section is not written, but it is populated:

* it hides what stands under the second spelling of its name;
* hollow ADAM parameters make a prologue that of an ADAM task, whose arguments stand first.

**`Prologue.render_cleared_iff`** — where neither of these shows, and only there, blank lines do not
show, as long as the names of hollow sections are canonical; **`Prologue.blank_lines_show`** has a
prologue for each of the two, and one for a name that is not.
-/

namespace SourcePrologue

open Body Standard

/-! ### Sections without blank edges -/

namespace Sections

/-- The sections without blank edges, and without those of which nothing is left. -/
def trimmed (s : Sections) : Sections where
  entries := (s.entries.map fun e => (e.1, trimBlankEdges e.2)).filter fun e => !e.2.isEmpty
  ascending :=
    (s.ascending.map (fun e : Text × List Text => (e.1, trimBlankEdges e.2))
      fun _ _ h => h).filter _
  inhabited e he := by simpa using (List.mem_filter.1 he).2

/-- **A trimmed section** holds its lines without the blank edges. -/
theorem find_trimmed (s : Sections) (name : Text) :
    s.trimmed.find name = trimBlankEdges (s.find name) := by
  by_cases hls : trimBlankEdges (s.find name) = []
  · rw [hls]
    by_contra hfind
    obtain ⟨hmem, -⟩ := List.mem_filter.1 (mem_entries_of_find hfind)
    obtain ⟨e, he, hentry⟩ := List.mem_map.1 hmem
    obtain ⟨rfl, hlines⟩ := Prod.mk.inj hentry
    rw [find_of_mem he] at hls
    exact hfind (hlines.symm.trans hls)
  · have hentry := mem_entries_of_find (ne_nil_of_trimBlankEdges hls)
    have hmem : (name, trimBlankEdges (s.find name)) ∈ s.trimmed.entries :=
      List.mem_filter.2 ⟨List.mem_map.2 ⟨_, hentry, rfl⟩, by simpa using hls⟩
    exact find_of_mem hmem

end Sections

namespace Prologue

/-- A prologue without the blank edges of its sections, and without sections of which nothing is
left. -/
def cleared (p : Prologue) : Prologue := { p with sections := p.sections.trimmed }

/-- A section is **visible** if it has a line that is not blank. -/
def IsVisible (p : Prologue) (name : Text) : Prop :=
  ∃ line ∈ p.sections.find name, line.isBlank = false

/-- A section is **hollow** if it is populated and has no line that is not blank. -/
def IsHollow (p : Prologue) (name : Text) : Prop :=
  p.sections.find name ≠ [] ∧ ¬p.IsVisible name

instance (p : Prologue) (name : Text) : Decidable (p.IsVisible name) :=
  inferInstanceAs (Decidable (∃ line ∈ p.sections.find name, line.isBlank = false))

instance (p : Prologue) (name : Text) : Decidable (p.IsHollow name) :=
  inferInstanceAs (Decidable (p.sections.find name ≠ [] ∧ ¬p.IsVisible name))

variable {p : Prologue} {name : Text}

theorem isVisible_iff : p.IsVisible name ↔ trimBlankEdges (p.sections.find name) ≠ [] :=
  trimBlankEdges_ne_nil_iff.symm

theorem not_isVisible_iff : ¬p.IsVisible name ↔ trimBlankEdges (p.sections.find name) = [] := by
  rw [isVisible_iff, not_not]

theorem find_cleared (p : Prologue) (name : Text) :
    p.cleared.sections.find name = trimBlankEdges (p.sections.find name) :=
  p.sections.find_trimmed name

theorem content_cleared (p : Prologue) (name : Text) :
    p.cleared.content name = trimBlankEdges (p.content name) :=
  p.find_cleared _

/-- **The sections of a cleared prologue** are the visible ones. -/
theorem has_cleared_iff : p.cleared.sections.has name = true ↔ p.IsVisible name := by
  rw [Sections.has_iff, find_cleared, isVisible_iff]

theorem has_cleared_eq_false_iff : p.cleared.sections.has name = false ↔ ¬p.IsVisible name := by
  rw [← has_cleared_iff, Bool.not_eq_true]

/-! ### What is written of a name -/

/-- What a name resolves to decides what is written for it, but for blank edges. -/
theorem written?_congr {q : Prologue} (hasked : q.writeDefaults = p.writeDefaults)
    (hlines : trimBlankEdges (q.resolved name).2 = trimBlankEdges (p.resolved name).2)
    (hfound : trimBlankEdges (p.resolved name).2 ≠ [] → (q.resolved name).1 = (p.resolved name).1) :
    q.written? name = p.written? name := by
  by_cases hls : trimBlankEdges (p.resolved name).2 = []
  · rw [written?_of_eq_nil hls, written?_of_eq_nil (hlines.trans hls), hasked]
  · rw [written?_of_ne_nil hls, written?_of_ne_nil (by rwa [hlines]), hlines, hfound hls]

theorem resolved_eq {found : Text} (h : p.resolve? name = some found) :
    p.resolved name = (found, p.content found) := by
  rw [resolved, h]

theorem resolved_lines (h : p.resolve? name = none) : (p.resolved name).2 = [] := by
  rw [resolved, h]

/-- A name that resolves to the same section before and after clearing is written alike. -/
theorem written?_cleared_of_resolve? (h : p.cleared.resolve? name = p.resolve? name) :
    p.cleared.written? name = p.written? name := by
  cases hfound : p.resolve? name with
  | none =>
    refine written?_congr rfl ?_ fun hls => ?_
    · rw [resolved_lines hfound, resolved_lines (h.trans hfound)]
    · rw [resolved_lines hfound] at hls
      exact absurd trimBlankEdges_nil hls
  | some found =>
    rw [hfound] at h
    refine written?_congr rfl ?_ fun _ => ?_
    · rw [resolved_eq hfound, resolved_eq h]
      show trimBlankEdges (p.cleared.content found) = trimBlankEdges (p.content found)
      rw [content_cleared, trimBlankEdges_trimBlankEdges]
    · rw [resolved_eq hfound, resolved_eq h]

/-- A name without lines to be written before and after clearing is written alike. -/
theorem written?_cleared_of_eq_nil (hcleared : p.cleared.resolve? name = none)
    (h : trimBlankEdges (p.resolved name).2 = []) : p.cleared.written? name = p.written? name := by
  refine written?_congr rfl ?_ fun hls => absurd h hls
  rw [resolved_lines hcleared, trimBlankEdges_nil, h]

theorem resolve?_cleared_eq_none (hkey : ¬p.IsVisible (SectionName.canonical name))
    (hsecond : ∀ second, aliases.lookup (SectionName.canonical name) = some second →
      ¬p.IsVisible second) : p.cleared.resolve? name = none := by
  have hhas := has_cleared_eq_false_iff.2 hkey
  rw [resolve?, hhas, if_neg Bool.false_ne_true, Option.filter_eq_none_iff]
  intro second hlookup
  rw [has_cleared_iff]
  exact hsecond second hlookup

theorem IsVisible.has (h : p.IsVisible name) : p.sections.has name = true := by
  obtain ⟨line, hline, -⟩ := h
  exact Sections.has_iff.2 (List.ne_nil_of_mem hline)

/-- A visible second spelling is found before and after clearing, if nothing hides it. -/
theorem resolve?_cleared_of_second {second : Text}
    (hhas : p.sections.has (SectionName.canonical name) = false)
    (hlookup : aliases.lookup (SectionName.canonical name) = some second)
    (hvisible : p.IsVisible second) : p.cleared.resolve? name = p.resolve? name := by
  have hcleared : p.cleared.sections.has (SectionName.canonical name) = false :=
    has_cleared_eq_false_iff.2 fun hkey => by simp [hkey.has] at hhas
  rw [resolve?, resolve?, hhas, hcleared, hlookup, Option.filter_some, Option.filter_some,
    hvisible.has, has_cleared_iff.2 hvisible]

/-- A second spelling that is not visible leaves nothing to be written. -/
theorem trimBlankEdges_resolved_of_second
    (hhas : p.sections.has (SectionName.canonical name) = false)
    (hsecond : ∀ second, aliases.lookup (SectionName.canonical name) = some second →
      ¬p.IsVisible second) : trimBlankEdges (p.resolved name).2 = [] := by
  cases hfound : p.resolve? name with
  | none => rw [resolved_lines hfound, trimBlankEdges_nil]
  | some found =>
    rw [resolved_eq hfound]
    rw [resolve?, hhas, if_neg Bool.false_ne_true, Option.filter_eq_some_iff] at hfound
    show trimBlankEdges (p.content found) = []
    rw [content, (spec_of_lookup hfound.1).2.1]
    exact not_isVisible_iff.1 (hsecond found hfound.1)

/-- **A name that stands for no hollow section** is written alike. -/
theorem written?_cleared_of_not_isHollow (h : ¬p.IsHollow (SectionName.canonical name)) :
    p.cleared.written? name = p.written? name := by
  cases hhas : p.sections.has (SectionName.canonical name) with
  | true =>
    have hvisible : p.IsVisible (SectionName.canonical name) := by
      by_contra hvisible
      exact h ⟨Sections.has_iff.1 hhas, hvisible⟩
    refine written?_cleared_of_resolve? ?_
    rw [resolve?, resolve?, if_pos hhas, if_pos (has_cleared_iff.2 hvisible)]
  | false =>
    by_cases hseen : ∃ second, aliases.lookup (SectionName.canonical name) = some second ∧
        p.IsVisible second
    · obtain ⟨second, hlookup, hvisible⟩ := hseen
      exact written?_cleared_of_resolve? (resolve?_cleared_of_second hhas hlookup hvisible)
    · have hsecond : ∀ second, aliases.lookup (SectionName.canonical name) = some second →
          ¬p.IsVisible second := fun second hlookup hvisible =>
        hseen ⟨second, hlookup, hvisible⟩
      have hkey : ¬p.IsVisible (SectionName.canonical name) := fun hkey => by
        simp [hkey.has] at hhas
      exact written?_cleared_of_eq_nil (resolve?_cleared_eq_none hkey hsecond)
        (trimBlankEdges_resolved_of_second hhas hsecond)

/-- A name that stands for a hollow section resolves to it. -/
theorem trimBlankEdges_resolved_of_isHollow (hc : SectionName.canonical name = name)
    (h : p.IsHollow name) : trimBlankEdges (p.resolved name).2 = [] := by
  rw [resolved_of_has hc (Sections.has_iff.2 h.1)]
  exact not_isVisible_iff.1 h.2

/-- **A hollow section that hides nothing** is written alike. -/
theorem written?_cleared_of_isHollow (hc : SectionName.canonical name = name) (h : p.IsHollow name)
    (hsecond : ∀ second, aliases.lookup name = some second → ¬p.IsVisible second) :
    p.cleared.written? name = p.written? name := by
  refine written?_cleared_of_eq_nil ?_ (trimBlankEdges_resolved_of_isHollow hc h)
  refine resolve?_cleared_eq_none ?_ ?_
  · rw [hc]
    exact h.2
  · rw [hc]
    exact hsecond

/-- A hollow section does not hide the second spelling once it has been cleared. -/
theorem written?_cleared_of_hidden {second : Text} (hlookup : aliases.lookup name = some second)
    (h : p.IsHollow name) (hsecond : p.IsVisible second) :
    ∃ ls, p.cleared.written? name = some (second, ls) := by
  have hc := (isLabel_of_mem_written (spec_of_lookup hlookup).1).canonical
  have hresolved := resolved_of_second hc (has_cleared_eq_false_iff.2 h.2) hlookup
    (has_cleared_iff.2 hsecond)
  have hls : trimBlankEdges (p.cleared.resolved name).2 ≠ [] := by
    rw [hresolved]
    show trimBlankEdges (p.cleared.sections.find second) ≠ []
    rw [find_cleared, trimBlankEdges_trimBlankEdges]
    exact isVisible_iff.1 hsecond
  exact ⟨_, (written?_of_ne_nil hls).trans (by rw [hresolved])⟩

theorem name_of_written?_of_isHollow (hc : SectionName.canonical name = name) (h : p.IsHollow name)
    {b : Text × List Text} (hb : p.written? name = some b) : b.1 = name := by
  rw [written?_of_eq_nil (trimBlankEdges_resolved_of_isHollow hc h)] at hb
  split at hb
  · obtain ⟨line, -, rfl⟩ := Option.map_eq_some_iff.1 hb
    rfl
  · simp at hb

/-- A section with one spelling and no default is written if it is visible. -/
theorem written?_of_plain (hc : SectionName.canonical name = name)
    (hsecond : aliases.lookup name = none) (hdefault : defaults.lookup name = none) :
    (p.written? name = none ↔ ¬p.IsVisible name) ∧
      ∀ b, p.written? name = some b → b.1 = name := by
  have hresolved : p.resolved name = (name, p.sections.find name) := by
    rcases resolved_cases p hc with ⟨-, hresolved⟩ | ⟨second, hlookup, -⟩ | ⟨hhas, hresolved, -⟩
    · exact hresolved
    · exact absurd (hsecond.symm.trans hlookup) (by simp)
    · rw [hresolved, Sections.has_eq_false_iff.1 hhas]
  by_cases hls : trimBlankEdges (p.sections.find name) = []
  · have hnone : p.written? name = none := by
      rw [written?_of_eq_nil (by rw [hresolved]; exact hls), hdefault]
      split <;> rfl
    rw [hnone]
    exact ⟨⟨fun _ => not_isVisible_iff.2 hls, fun _ => rfl⟩, fun b hb => by simp at hb⟩
  · rw [written?_of_ne_nil (by rw [hresolved]; exact hls), hresolved]
    refine ⟨⟨fun hnone => by simp at hnone, fun hnot => absurd (isVisible_iff.2 hls) hnot⟩, ?_⟩
    intro b hb
    rw [← Option.some.inj hb]

/-- A standard section is written under its name or its second spelling. -/
theorem inPlace_written? {names : List Text} (h : ∀ name ∈ names, name ∈ Standard.written) :
    InPlace p.written? names := by
  intro name hname b hb
  have hwritten := h name hname
  have hc := (isLabel_of_mem_written hwritten).canonical
  refine ⟨(outcome_of_written? hc (slotOf_of_mem_written hwritten) hb).1, ?_⟩
  have hfound : b.1 = name ∨ aliases.lookup name = some b.1 := by
    rcases written?_cases hb with ⟨hb, -⟩ | ⟨line, -, rfl⟩
    · rcases resolved_cases p hc with ⟨-, hresolved⟩ | ⟨second, hlookup, -, hresolved⟩ |
        ⟨-, hresolved, -⟩
      · exact Or.inl (by rw [hb, hresolved])
      · exact Or.inr (by rw [hb, hresolved]; exact hlookup)
      · exact Or.inl (by rw [hb, hresolved])
    · exact Or.inl rfl
  refine (SectionName.isLabel_of_mem_names b.1 (mem_names_iff.2 ?_)).colon_notMem
  rcases hfound with hfound | hlookup
  · exact Or.inl (hfound ▸ hwritten)
  · exact Or.inr ⟨_, mem_of_lookup hlookup, rfl⟩

/-! ### Other sections -/

/-- A prologue with no hollow section that is populated under a name which is not canonical, or that
is found by such a name. -/
def CanonicalWhereHollow (p : Prologue) : Prop :=
  ∀ name ∈ p.sectionNames, SectionName.canonical name ≠ name →
    ¬p.IsHollow name ∧ ¬p.IsHollow (SectionName.canonical name)

instance (p : Prologue) : Decidable p.CanonicalWhereHollow :=
  inferInstanceAs (Decidable (∀ name ∈ p.sectionNames, SectionName.canonical name ≠ name →
    ¬p.IsHollow name ∧ ¬p.IsHollow (SectionName.canonical name)))

theorem otherNames_cleared (p : Prologue) :
    p.cleared.otherNames = p.otherNames.filter fun name => decide (p.IsVisible name) := by
  refine Text.eq_of_mem_iff (otherNames_pairwise _) ((otherNames_pairwise p).filter _) ?_
  intro name
  rw [List.mem_filter, mem_otherNames_iff, mem_otherNames_iff, find_cleared, ← isVisible_iff,
    decide_eq_true_iff]
  constructor
  · rintro ⟨hvisible, hname⟩
    exact ⟨⟨ne_nil_of_trimBlankEdges (isVisible_iff.1 hvisible), hname⟩, hvisible⟩
  · rintro ⟨⟨-, hname⟩, hvisible⟩
    exact ⟨hvisible, hname⟩

/-- **Other sections are written alike.** They have one spelling and no default. -/
theorem filterMap_otherNames_cleared (hp : p.CanonicalWhereHollow) :
    p.cleared.otherNames.filterMap p.cleared.written? = p.otherNames.filterMap p.written? := by
  rw [otherNames_cleared, List.filterMap_filter]
  refine List.filterMap_congr fun name hname => ?_
  obtain ⟨hfind, hother⟩ := mem_otherNames_iff.1 hname
  have hnot : name ∉ Standard.written := fun hmem => hother (written_subset_names name hmem)
  have hsecond : aliases.lookup name = none := by
    by_contra hlookup
    obtain ⟨second, hlookup⟩ := Option.ne_none_iff_exists'.1 hlookup
    exact hnot (spec_of_lookup hlookup).1
  have hdefault : defaults.lookup name = none := by
    by_contra hdefault
    obtain ⟨line, hline⟩ := Option.ne_none_iff_exists'.1 hdefault
    exact hnot (mem_written_of_lookup_defaults hline)
  by_cases hc : SectionName.canonical name = name
  · by_cases hvisible : p.IsVisible name
    · rw [if_pos (by simpa using hvisible)]
      refine written?_cleared_of_not_isHollow ?_
      rw [hc]
      exact fun h => h.2 hvisible
    · rw [if_neg (by simpa using hvisible)]
      exact (((written?_of_plain hc hsecond hdefault).1).2 hvisible).symm
  · obtain ⟨hname, hkey⟩ := hp name (mem_sectionNames_iff.2 hfind) hc
    have hvisible : p.IsVisible name := by
      by_contra hvisible
      exact hname ⟨hfind, hvisible⟩
    rw [if_pos (by simpa using hvisible)]
    exact written?_cleared_of_not_isHollow hkey

/-! ### Arguments and description -/

theorem isAdamTask_iff : p.isAdamTask = true ↔
    p.content "ADAM Parameters" ≠ [] ∨
      (p.content "Type of Module").any (Text.occursIn "ADAM") = true := by
  rw [isAdamTask, Bool.or_eq_true, Bool.not_eq_true', List.isEmpty_eq_false_iff]

theorem content_adamParameters (p : Prologue) :
    p.content "ADAM Parameters" = p.sections.find "ADAM Parameters" :=
  content_of_isLabel p (isLabel_of_mem_written (by decide))

theorem isAdamTask_cleared_iff : p.cleared.isAdamTask = true ↔ p.isAdamTask = true ∧
    (p.IsHollow "ADAM Parameters" →
      (p.content "Type of Module").any (Text.occursIn "ADAM") = true) := by
  rw [isAdamTask_iff, isAdamTask_iff, content_cleared, content_cleared, any_adam_trimBlankEdges,
    content_adamParameters, ← isVisible_iff]
  constructor
  · rintro (hvisible | hmodule)
    · exact ⟨Or.inl (ne_nil_of_trimBlankEdges (isVisible_iff.1 hvisible)),
        fun hhollow => absurd hvisible hhollow.2⟩
    · exact ⟨Or.inr hmodule, fun _ => hmodule⟩
  · rintro ⟨hfind | hmodule, hhollow⟩
    · by_cases hvisible : p.IsVisible "ADAM Parameters"
      · exact Or.inl hvisible
      · exact Or.inr (hhollow ⟨hfind, hvisible⟩)
    · exact Or.inr hmodule

/-- The standard names before the arguments and the description. -/
def opening : List Text := Standard.written.take 6

/-- The standard names between them and the other names. -/
def middle : List Text := (Standard.written.take 19).drop 8

/-- The arguments of an ADAM task come before the description. The names before the other ones have
one spelling. -/
theorem leading_spec :
    leading true = opening ++ Text.ofString "Arguments" :: Text.ofString "Description" :: middle ∧
    leading false = opening ++ Text.ofString "Description" :: Text.ofString "Arguments" :: middle ∧
    (∀ name ∈ leading false, aliases.lookup name = none) ∧
    defaults.lookup (Text.ofString "Arguments") = none ∧
    defaults.lookup (Text.ofString "Description") = none := by
  decide

theorem mem_written_of_mem_leading {name : Text} (h : name ∈ leading false) :
    name ∈ Standard.written := by
  rw [← leading_append_trailing]
  exact List.mem_append_left _ h

/-- What comes before the other names is written alike, name by name. -/
theorem written?_leading_cleared (h : name ∈ leading false) :
    p.cleared.written? name = p.written? name := by
  have hc := (isLabel_of_mem_written (mem_written_of_mem_leading h)).canonical
  by_cases hhollow : p.IsHollow name
  · refine written?_cleared_of_isHollow hc hhollow fun second hlookup => ?_
    rw [leading_spec.2.2.1 name h] at hlookup
    exact absurd hlookup (by simp)
  · refine written?_cleared_of_not_isHollow ?_
    rwa [hc]

theorem written?_of_mem_leading (h : name ∈ leading false)
    (hdefault : defaults.lookup name = none) :
    (p.written? name = none ↔ ¬p.IsVisible name) ∧ ∀ b, p.written? name = some b → b.1 = name :=
  written?_of_plain (isLabel_of_mem_written (mem_written_of_mem_leading h)).canonical
    (leading_spec.2.2.1 name h) hdefault

theorem written?_arguments : (p.written? "Arguments" = none ↔ ¬p.IsVisible "Arguments") ∧
    ∀ b, p.written? "Arguments" = some b → b.1 = Text.ofString "Arguments" :=
  written?_of_mem_leading (by simp [leading_spec.2.1]) leading_spec.2.2.2.1

theorem written?_description : (p.written? "Description" = none ↔ ¬p.IsVisible "Description") ∧
    ∀ b, p.written? "Description" = some b → b.1 = Text.ofString "Description" :=
  written?_of_mem_leading (by simp [leading_spec.2.1]) leading_spec.2.2.2.2

/-- Where arguments or description are missing, their order does not show. -/
theorem filterMap_leading (h : ¬p.IsVisible "Arguments" ∨ ¬p.IsVisible "Description") :
    (leading true).filterMap p.written? = (leading false).filterMap p.written? := by
  have hpair : [Text.ofString "Arguments", Text.ofString "Description"].filterMap p.written? =
      [Text.ofString "Description", Text.ofString "Arguments"].filterMap p.written? := by
    rcases h with h | h
    · have hnone := written?_arguments.1.2 h
      simp only [List.filterMap_cons, List.filterMap_nil, hnone]
    · have hnone := written?_description.1.2 h
      simp only [List.filterMap_cons, List.filterMap_nil, hnone]
  have hsplit : ∀ first second : Text,
      (opening ++ first :: second :: middle).filterMap p.written? =
        opening.filterMap p.written? ++ ([first, second].filterMap p.written? ++
          middle.filterMap p.written?) := by
    intro first second
    rw [← List.filterMap_append, ← List.filterMap_append]
    rfl
  rw [leading_spec.1, leading_spec.2.1, hsplit, hsplit, hpair]

/-- **Arguments and description show in which order they are written.** -/
theorem bodyText_leading_ne {bs cs : List (Text × List Text)} (harguments : p.IsVisible "Arguments")
    (hdescription : p.IsVisible "Description") :
    p.bodyText ((leading false).filterMap p.written? ++ bs) ≠
      p.bodyText ((leading true).filterMap p.written? ++ cs) := by
  obtain ⟨a, ha⟩ := Option.ne_none_iff_exists'.1 fun hnone =>
    written?_arguments.1.1 hnone harguments
  obtain ⟨d, hd⟩ := Option.ne_none_iff_exists'.1 fun hnone =>
    written?_description.1.1 hnone hdescription
  have haname := written?_arguments.2 a ha
  have hdname := written?_description.2 d hd
  rw [leading_spec.1, leading_spec.2.1, List.filterMap_append, List.filterMap_append,
    List.filterMap_cons_some ha, List.filterMap_cons_some hd, List.append_assoc, List.append_assoc]
  intro htext
  have hrest := bodyText_append_inj.1 htext
  rw [List.cons_append, List.cons_append] at hrest
  have hcolon : ∀ name ∈ leading false, .char ':' ∉ name := fun name hname =>
    (isLabel_of_mem_written (mem_written_of_mem_leading hname)).colon_notMem
  obtain ⟨c, rest, hcons, hname⟩ := name_eq_of_bodyText_eq hrest
    (by rw [hdname]; exact hcolon _ (by simp [leading_spec.2.1])) fun c hc => by
      rw [← Option.some.inj hc, haname]
      exact hcolon _ (by simp [leading_spec.2.1])
  rw [← (List.cons.inj hcons).1, haname, hdname, Text.ofString_inj] at hname
  exact absurd hname (by decide)

/-! ### Copyright, licence, authors, history and bugs -/

theorem mem_written_of_mem_trailing {name : Text} (h : name ∈ trailing) :
    name ∈ Standard.written := by
  rw [← leading_append_trailing]
  exact List.mem_append_right _ h

theorem trailing_nodup : trailing.Nodup := by
  have hnodup := written_nodup
  rw [← leading_append_trailing] at hnodup
  exact (List.nodup_append.1 hnodup).2.1

/-- All names with a second spelling come last. -/
theorem fst_mem_trailing (e : Text × Text) (h : e ∈ aliases) : e.1 ∈ trailing := by
  obtain ⟨hlookup, hwritten, -⟩ := aliases_spec e h
  rw [← leading_append_trailing, List.mem_append] at hwritten
  refine hwritten.resolve_left fun hleading => ?_
  rw [leading_spec.2.2.1 e.1 hleading] at hlookup
  exact absurd hlookup (by simp)

/-- A name at the end is written alike, unless a hollow section hides its second spelling. -/
theorem written?_trailing_cleared (h : name ∈ trailing)
    (hhidden : ∀ e ∈ aliases, p.IsHollow e.1 → ¬p.IsVisible e.2) :
    p.cleared.written? name = p.written? name := by
  have hc := (isLabel_of_mem_written (mem_written_of_mem_trailing h)).canonical
  by_cases hhollow : p.IsHollow name
  · refine written?_cleared_of_isHollow hc hhollow fun second hlookup => ?_
    exact hhidden _ (mem_of_lookup hlookup) hhollow
  · refine written?_cleared_of_not_isHollow ?_
    rwa [hc]

/-- **A hollow section that hides another one shows.** -/
theorem not_isVisible_of_bodyText_eq (h : p.bodyText (trailing.filterMap p.cleared.written?) =
    p.bodyText (trailing.filterMap p.written?)) :
    ∀ e ∈ aliases, p.IsHollow e.1 → ¬p.IsVisible e.2 := by
  have hplace : ∀ q : Prologue, InPlace q.written? trailing := fun q =>
    inPlace_written? fun name => mem_written_of_mem_trailing
  -- the name under which a place is written tells whether its section was hollow
  have hlines : ∀ name ∈ trailing, ∀ b c, p.cleared.written? name = some b →
      p.written? name = some c → b.1 = c.1 → b = c := by
    intro name hname b c hb hc hbc
    have hcanonical := (isLabel_of_mem_written (mem_written_of_mem_trailing hname)).canonical
    by_cases hsame : p.cleared.written? name = p.written? name
    · rw [hsame, hc] at hb
      exact (Option.some.inj hb).symm
    · have hhollow : p.IsHollow name := by
        by_contra hhollow
        exact hsame (written?_cleared_of_not_isHollow (by rwa [hcanonical]))
      obtain ⟨second, hlookup, hvisible⟩ : ∃ second, aliases.lookup name = some second ∧
          p.IsVisible second := by
        by_contra hnone
        exact hsame (written?_cleared_of_isHollow hcanonical hhollow
          fun second hlookup hvisible => hnone ⟨second, hlookup, hvisible⟩)
      obtain ⟨ls, hwritten⟩ := written?_cleared_of_hidden hlookup hhollow hvisible
      rw [hwritten] at hb
      rw [← Option.some.inj hb, name_of_written?_of_isHollow hcanonical hhollow hc] at hbc
      exact absurd hbc.symm (spec_of_lookup hlookup).2.2.2
  have hagree := eq_of_bodyText_eq trailing_nodup (hplace _) (hplace _) hlines h
  intro e he hhollow hvisible
  have hlookup := (aliases_spec e he).1
  have hcanonical := (isLabel_of_mem_written (aliases_spec e he).2.1).canonical
  obtain ⟨ls, hwritten⟩ := written?_cleared_of_hidden hlookup hhollow hvisible
  have hsame := hagree e.1 (fst_mem_trailing e he)
  rw [hwritten] at hsame
  exact (spec_of_lookup hlookup).2.2.2
    (name_of_written?_of_isHollow hcanonical hhollow hsame.symm).symm

/-! ### Written forms -/

theorem blocks_eq (p : Prologue) : p.blocks = (leading p.isAdamTask).filterMap p.written? ++
    (p.otherNames.filterMap p.written? ++ trailing.filterMap p.written?) := by
  rw [blocks, order_eq, List.filterMap_append, List.filterMap_append]

theorem bodyText_cleared (p : Prologue) (bs : List (Text × List Text)) :
    p.cleared.bodyText bs = p.bodyText bs := rfl

/-- **Clearing shows in the sections only.** -/
theorem render_cleared_eq_iff :
    p.cleared.render = p.render ↔ p.bodyText p.cleared.blocks = p.bodyText p.blocks := by
  rw [render_eq_bodyText, render_eq_bodyText, bodyText_cleared]
  exact List.append_right_inj _

/-- What comes before the other names is written alike, in either order of arguments and
description. -/
theorem filterMap_leading_cleared (adam : Bool) :
    (leading adam).filterMap p.cleared.written? = (leading adam).filterMap p.written? := by
  refine List.filterMap_congr fun name hname => written?_leading_cleared ?_
  exact (leading_perm adam).mem_iff.1 hname

/-- Hollow ADAM parameters of a prologue that is not otherwise one of an ADAM task do not show,
unless both arguments and description are visible. -/
theorem filterMap_leading_isAdamTask
    (h : p.IsHollow "ADAM Parameters" →
      (p.content "Type of Module").any (Text.occursIn "ADAM") = true ∨
        ¬p.IsVisible "Arguments" ∨ ¬p.IsVisible "Description") :
    (leading p.cleared.isAdamTask).filterMap p.written? =
      (leading p.isAdamTask).filterMap p.written? := by
  by_cases hsame : p.cleared.isAdamTask = p.isAdamTask
  · rw [hsame]
  · obtain ⟨hbefore, hafter⟩ : p.isAdamTask = true ∧ p.cleared.isAdamTask = false := by
      cases hbefore : p.isAdamTask with
      | true => exact ⟨rfl, by simpa [hbefore] using hsame⟩
      | false =>
        refine absurd ?_ hsame
        rw [hbefore, ← Bool.not_eq_true, isAdamTask_cleared_iff, hbefore]
        simp
    rw [hbefore, hafter]
    have hnot : ¬(p.IsHollow "ADAM Parameters" →
        (p.content "Type of Module").any (Text.occursIn "ADAM") = true) := fun himp => by
      rw [isAdamTask_cleared_iff.2 ⟨hbefore, himp⟩] at hafter
      exact absurd hafter (by simp)
    obtain ⟨hhollow, hmodule⟩ := Classical.not_imp.1 hnot
    exact (filterMap_leading ((h hhollow).resolve_left hmodule)).symm

/-- **Hollow ADAM parameters show** where they decide on the order of arguments and description. -/
theorem adam_of_bodyText_eq {bs cs : List (Text × List Text)}
    (h : p.bodyText ((leading p.cleared.isAdamTask).filterMap p.written? ++ bs) =
      p.bodyText ((leading p.isAdamTask).filterMap p.written? ++ cs))
    (hhollow : p.IsHollow "ADAM Parameters") :
    (p.content "Type of Module").any (Text.occursIn "ADAM") = true ∨
      ¬p.IsVisible "Arguments" ∨ ¬p.IsVisible "Description" := by
  by_contra hnot
  rw [not_or, not_or, not_not, not_not] at hnot
  obtain ⟨hmodule, harguments, hdescription⟩ := hnot
  have hbefore : p.isAdamTask = true :=
    isAdamTask_iff.2 (Or.inl (by rw [content_adamParameters]; exact hhollow.1))
  have hafter : p.cleared.isAdamTask = false := by
    rw [← Bool.not_eq_true, isAdamTask_cleared_iff]
    exact fun h => hmodule (h.2 hhollow)
  rw [hbefore, hafter] at h
  exact bodyText_leading_ne harguments hdescription h

/-- The parts of the written form that clearing can change. -/
theorem render_cleared_eq_iff_of_canonical (hp : p.CanonicalWhereHollow) :
    p.cleared.render = p.render ↔
      p.bodyText ((leading p.cleared.isAdamTask).filterMap p.written? ++
          (p.otherNames.filterMap p.written? ++ trailing.filterMap p.cleared.written?)) =
        p.bodyText ((leading p.isAdamTask).filterMap p.written? ++
          (p.otherNames.filterMap p.written? ++ trailing.filterMap p.written?)) := by
  rw [render_cleared_eq_iff, blocks_eq, blocks_eq, filterMap_leading_cleared,
    filterMap_otherNames_cleared hp]

/-- What must hold of hollow sections that do not show. -/
theorem hollow_of_render_cleared_eq (hp : p.CanonicalWhereHollow)
    (h : p.cleared.render = p.render) :
    (∀ e ∈ aliases, p.IsHollow e.1 → ¬p.IsVisible e.2) ∧
      (p.IsHollow "ADAM Parameters" →
        (p.content "Type of Module").any (Text.occursIn "ADAM") = true ∨
          ¬p.IsVisible "Arguments" ∨ ¬p.IsVisible "Description") := by
  rw [render_cleared_eq_iff_of_canonical hp] at h
  have hadam := adam_of_bodyText_eq h
  rw [filterMap_leading_isAdamTask hadam, bodyText_append_inj, bodyText_append_inj] at h
  exact ⟨not_isVisible_of_bodyText_eq h, hadam⟩

/-- **Blank lines do not show**, unless a hollow section hides another one, or hollow ADAM
parameters decide on the order of arguments and description. -/
theorem render_cleared_iff (hp : p.CanonicalWhereHollow) :
    p.cleared.render = p.render ↔
      (∀ e ∈ aliases, p.IsHollow e.1 → ¬p.IsVisible e.2) ∧
        (p.IsHollow "ADAM Parameters" →
          (p.content "Type of Module").any (Text.occursIn "ADAM") = true ∨
            ¬p.IsVisible "Arguments" ∨ ¬p.IsVisible "Description") := by
  constructor
  · exact hollow_of_render_cleared_eq hp
  · rintro ⟨hhidden, hadam⟩
    rw [render_cleared_eq_iff_of_canonical hp, filterMap_leading_isAdamTask hadam,
      List.filterMap_congr fun name hname => written?_trailing_cleared hname hhidden]

/-- A prologue with blank edges, hollow bugs and authors, and hollow ADAM parameters without a
description. -/
def padded : Prologue := ({ writeDefaults := true } : Prologue).appendAll [
  ("ADAM Parameters", [[]]), ("Arguments", [[], Text.ofString "a"]),
  ("Authors", [Text.ofString " "]), ("Bugs", [[], []]),
  ("Notes", [[], Text.ofString "n", [], Text.ofString "m", []])]

/-- Blank lines do not show, though parameters and authors are populated. -/
theorem render_cleared_iff_padded : padded.CanonicalWhereHollow ∧
    padded.IsHollow "ADAM Parameters" ∧ padded.IsHollow "Authors" ∧
    padded.cleared.sectionNames = [Text.ofString "Arguments", Text.ofString "Notes"] ∧
    padded.cleared.render = padded.render := by
  have hsections : padded.CanonicalWhereHollow ∧ padded.IsHollow "ADAM Parameters" ∧
      padded.IsHollow "Authors" ∧ ¬padded.IsVisible "Description" ∧
      padded.cleared.sectionNames = [Text.ofString "Arguments", Text.ofString "Notes"] ∧
      ∀ e ∈ aliases, padded.IsHollow e.1 → ¬padded.IsVisible e.2 := by decide
  obtain ⟨hcanonical, hadam, hauthors, hdescription, hnames, hhidden⟩ := hsections
  exact ⟨hcanonical, hadam, hauthors, hnames,
    (render_cleared_iff hcanonical).2 ⟨hhidden, fun _ => Or.inr (Or.inr hdescription)⟩⟩

/-- Blank authors before an author under the second spelling. -/
def concealing : Prologue := ({} : Prologue).appendAll [
  ("Authors", [[]]), ("Author", [Text.ofString "MJC"])]

/-- Blank ADAM parameters of a routine. -/
def swapping : Prologue := ({} : Prologue).appendAll [
  ("ADAM Parameters", [[]]), ("Arguments", [Text.ofString "a"]),
  ("Description", [Text.ofString "d"])]

/-- A blank section under a name that is not canonical, and what is found by that name. -/
def displacing : Prologue := ({} : Prologue).appendAll [
  ("A \u0149", [[]]), ("A \u02bcN", [Text.ofString "n"])]

/-- **Blank lines can show.** Blank authors hide the author, blank ADAM parameters put the arguments
before the description, and under a name that is not canonical a blank section is written with the
lines of another one. -/
theorem blank_lines_show :
    (concealing.IsHollow "Authors" ∧ concealing.IsVisible "Author" ∧
      concealing.cleared.render ≠ concealing.render) ∧
    (swapping.IsHollow "ADAM Parameters" ∧ swapping.cleared.render ≠ swapping.render) ∧
    displacing.IsHollow "A \u02bcN" ∧ displacing.cleared.render ≠ displacing.render := by
  have hconcealing : concealing.CanonicalWhereHollow ∧ concealing.IsHollow "Authors" ∧
      concealing.IsVisible "Author" := by decide
  have hswapping : swapping.CanonicalWhereHollow ∧ swapping.IsHollow "ADAM Parameters" ∧
      swapping.IsVisible "Arguments" ∧ swapping.IsVisible "Description" ∧
      (swapping.content "Type of Module").any (Text.occursIn "ADAM") = false := by decide
  obtain ⟨hcanonical, hauthors, hauthor⟩ := hconcealing
  obtain ⟨hcanonical', hadam, harguments, hdescription, hmodule⟩ := hswapping
  refine ⟨⟨hauthors, hauthor, fun h => ?_⟩, ⟨hadam, fun h => ?_⟩, by decide⟩
  · have halias : (Text.ofString "Authors", Text.ofString "Author") ∈ aliases := by simp [aliases]
    exact (hollow_of_render_cleared_eq hcanonical h).1 _ halias hauthors hauthor
  · rcases (hollow_of_render_cleared_eq hcanonical' h).2 hadam with hany | hnot | hnot
    · rw [hmodule] at hany
      exact Bool.noConfusion hany
    · exact hnot harguments
    · exact hnot hdescription

end Prologue

end SourcePrologue

import Mathlib.Data.List.Nodup
import SourcePrologue.Proofs.Copyright.Notice
import SourcePrologue.Proofs.Copyright.YearRun
import SourcePrologue.Proofs.Text.Words

/-!
# What a notice says

A notice credits years to funding bodies in sentences, of which each **mentions** one body and the
runs of years that are credited to it.

* **`IsFirstHolder`** — the body that a year is credited to: it holds the year, and none of those
  before it in the list does;
* **`Mention`** — a body with runs of years, and the sentence that it stands for;
* **`mentions_spec`** — the mentions of a notice: one for each first holder of some year, in the
  order of the bodies, with the maximal runs of the years that it is the first holder of;
* **`countP_mentions`** — a year that is held is named in one mention, and no other year in any;
* **`noticeText_eq`** — the text that is laid out in lines.
-/

namespace SourcePrologue.Copyright

/-! ### First holders -/

/-- A body is the **first holder** of a year among bodies in a row. -/
def IsFirstHolder (bodies : List FundingBody) (body : FundingBody) (year : Int) : Prop :=
  ∃ before after, bodies = before ++ body :: after ∧ body.holds year = true ∧
    ∀ other ∈ before, other.holds year = false

variable {bodies : List FundingBody} {body : FundingBody} {years : List Int} {year : Int}

theorem isFirstHolder_iff :
    IsFirstHolder bodies body year ↔ bodies.find? (·.holds year) = some body := by
  rw [List.find?_eq_some_iff_append, IsFirstHolder]
  constructor
  · rintro ⟨before, after, hbodies, hholds, hbefore⟩
    exact ⟨hholds, before, after, hbodies, fun other hother => by simp [hbefore other hother]⟩
  · rintro ⟨hholds, before, after, hbodies, hbefore⟩
    exact ⟨before, after, hbodies, hholds, fun other hother => by simpa using hbefore other hother⟩

theorem IsFirstHolder.mem (h : IsFirstHolder bodies body year) : body ∈ bodies :=
  List.mem_of_find?_eq_some (isFirstHolder_iff.1 h)

theorem IsFirstHolder.holds (h : IsFirstHolder bodies body year) : body.holds year = true := by
  obtain ⟨-, -, -, hholds, -⟩ := h
  exact hholds

/-- A year has one first holder at most. -/
theorem IsFirstHolder.unique {other : FundingBody} (h : IsFirstHolder bodies body year)
    (hother : IsFirstHolder bodies other year) : body = other := by
  rw [isFirstHolder_iff] at h hother
  rw [h, Option.some.injEq] at hother
  exact hother

/-- A year that is held has a first holder. -/
theorem exists_isFirstHolder_iff :
    (∃ body, IsFirstHolder bodies body year) ↔ ∃ body ∈ bodies, body.holds year = true := by
  simp only [isFirstHolder_iff, ← Option.isSome_iff_exists, List.find?_isSome]

/-- The years credited to a label are those whose first holder bears it. With labels that tell the
bodies apart these are the years of one body. -/
theorem mem_share_iff (hlabels : (bodies.map (·.label)).Nodup) (hbody : body ∈ bodies) :
    year ∈ share bodies body.label years ↔ year ∈ years ∧ IsFirstHolder bodies body year := by
  rw [share, List.mem_filter, isFirstHolder_iff, Option.any_eq_true]
  refine and_congr_right fun _ => ⟨?_, fun h => ⟨body, h, by simp⟩⟩
  rintro ⟨first, hfirst, hlabel⟩
  have hmem := List.mem_of_find?_eq_some hfirst
  rw [hfirst, List.inj_on_of_nodup_map hlabels hmem hbody (by simpa using hlabel)]

/-! ### Mentions -/

/-- A **mention** in a notice: a body with the runs of years that are credited to it. -/
structure Mention where
  body : FundingBody
  runs : List YearRun
  deriving DecidableEq

/-- The sentence that credits runs of years to a holder. -/
def attribution (rs : List YearRun) (holder : Text) : Text :=
  Text.ofString "Copyright (C) " ++ Text.join (Text.ofChar ',') (rs.map YearRun.text)
    ++ Text.ofChar ' ' ++ holder ++ Text.ofChar '.'

namespace Mention

/-- The sentence of a mention. -/
def text (m : Mention) : Text := attribution m.runs m.body.label

/-- Whether a mention names a year. -/
def names (m : Mention) (year : Int) : Bool := m.runs.any (year ∈ ·)

theorem names_iff {m : Mention} : m.names year = true ↔ ∃ r ∈ m.runs, year ∈ r := by
  simp [names]

end Mention

/-- The mentions of the bodies that have a share in years. -/
def mentions (years : List Int) (bodies : List FundingBody) : List Mention :=
  (bodies.filter fun body => !(share bodies body.label years).isEmpty).map fun body =>
    ⟨body, runs (share bodies body.label years)⟩

theorem sentences_eq (years : List Int) (bodies : List FundingBody) :
    sentences years (.bodies bodies) = (mentions years bodies).map Mention.text := by
  rw [sentences, mentions, List.map_map, ← List.filterMap_eq_map, List.filterMap_filter]
  refine List.filterMap_congr fun body _ => ?_
  cases hshare : share bodies body.label years with
  | nil => simp
  | cons first rest => simp [hshare, Mention.text, attribution, sentence, compress]

theorem map_body_mentions (years : List Int) (bodies : List FundingBody) :
    (mentions years bodies).map (·.body) =
      bodies.filter fun body => !(share bodies body.label years).isEmpty := by
  rw [mentions, List.map_map]
  exact List.map_id _

section

variable (hyears : years.Pairwise (· < ·)) (hlabels : (bodies.map (·.label)).Nodup)

include hlabels

theorem mem_map_body_mentions_iff :
    body ∈ (mentions years bodies).map (·.body) ↔
      ∃ year ∈ years, IsFirstHolder bodies body year := by
  rw [map_body_mentions, List.mem_filter]
  constructor
  · rintro ⟨hbody, hshare⟩
    obtain ⟨year, hyear⟩ := List.exists_mem_of_ne_nil _ (by simpa using hshare)
    exact ⟨year, (mem_share_iff hlabels hbody).1 hyear⟩
  · rintro ⟨year, hyear⟩
    have hbody := hyear.2.mem
    have hshare := List.ne_nil_of_mem ((mem_share_iff hlabels hbody).2 hyear)
    exact ⟨hbody, by simpa using hshare⟩

include hyears

/-- **The mentions of a notice**: maximal runs of the years of their first holders. -/
theorem mentions_spec {m : Mention} (hm : m ∈ mentions years bodies) : IsMaximal m.runs ∧
    ∀ year, m.names year = true ↔ year ∈ years ∧ IsFirstHolder bodies m.body year := by
  obtain ⟨body, hbody, rfl⟩ := List.mem_map.1 hm
  have hshare : (share bodies body.label years).Pairwise (· < ·) := hyears.filter _
  refine ⟨isMaximal_runs hshare, fun year => ?_⟩
  rw [Mention.names_iff, exists_mem_runs_iff hshare,
    mem_share_iff hlabels (List.mem_filter.1 hbody).1]

/-- **A year is named once**, if it is among the years credited and somebody holds it. -/
theorem countP_mentions (year : Int) : (mentions years bodies).countP (·.names year) =
    if year ∈ years ∧ ∃ body ∈ bodies, body.holds year = true then 1 else 0 := by
  have hnames : ∀ m ∈ mentions years bodies,
      m.names year = true ↔ year ∈ years ∧ IsFirstHolder bodies m.body year := fun m hm =>
    (mentions_spec hyears hlabels hm).2 year
  have hbodies : ((mentions years bodies).map (·.body)).Nodup := by
    rw [map_body_mentions]
    exact (hlabels.of_map _).filter _
  split
  · next hheld =>
    obtain ⟨body, hfirst⟩ := exists_isFirstHolder_iff.2 hheld.2
    obtain ⟨m, hm, rfl⟩ := List.mem_map.1
      ((mem_map_body_mentions_iff hlabels).2 ⟨year, hheld.1, hfirst⟩)
    -- the mention of the first holder is the only one that names the year
    have honly : ∀ other ∈ mentions years bodies,
        other.names year = true ↔ (other == m) = true := by
      intro other hother
      rw [hnames other hother, beq_iff_eq]
      constructor
      · intro h
        exact List.inj_on_of_nodup_map hbodies hother hm (h.2.unique hfirst)
      · rintro rfl
        exact ⟨hheld.1, hfirst⟩
    rw [List.countP_congr honly]
    exact List.count_eq_one_of_mem (hbodies.of_map _) hm
  · next hheld =>
    rw [List.countP_eq_zero]
    intro m hm hnamed
    obtain ⟨hyear, hfirst⟩ := (hnames m hm).1 hnamed
    exact hheld ⟨hyear, exists_isFirstHolder_iff.1 ⟨_, hfirst⟩⟩

end

/-! ### The text of a notice -/

/-- The text of a notice, before it is laid out in lines. -/
def noticeText (years : List Int) (credit : Credit) : Text :=
  Text.unwords (noticeWords years credit)

/-- Sentences with the closing phrase as one text, in which white space is collapsed. -/
def phrased (said : List Text) : Text :=
  if said = [] then [] else Text.collapse (Text.unwords (said ++ [closingPhrase]))

/-- **The text of a notice** is made of its sentences. -/
theorem noticeText_eq (years : List Int) (credit : Credit) :
    noticeText years credit = phrased (sentences years credit) := by
  rw [noticeText, noticeWords, phrased]
  cases sentences years credit with
  | nil => rfl
  | cons said rest => rfl

theorem words_noticeText (years : List Int) (credit : Credit) :
    (noticeText years credit).words = noticeWords years credit := by
  rw [noticeText, noticeWords]
  split
  · rfl
  · exact Text.words_collapse _

/-- A notice is its text, laid out in lines. -/
theorem notice_eq (width : Nat) (years : List Int) (credit : Credit) :
    notice width years credit = Text.fill width (noticeText years credit).words := by
  rw [words_noticeText, notice]

end SourcePrologue.Copyright

import Mathlib.Data.List.Pairwise
import SourcePrologue.Proofs.Copyright.Mention
import SourcePrologue.Proofs.Prologue.Lasting

/-!
# Credited years

From the history of a prologue to the sentences of its copyright notice.

* **`Copyright.eq_of_holds`** — no year is held by two of the funding bodies;
* **`Copyright.noticeIn_eq_nil_iff`** — there is a notice just in case there is something to say;
* **`Prologue.creditedYears_pairwise`** — the years to be credited ascend;
* **`Prologue.credits_each_year_once`** — every year is credited once, to the body it belongs to.
-/

namespace SourcePrologue

namespace Copyright

/-! ### The funding bodies -/

/-- Bodies that hold no year in common. -/
def FundingBody.Apart (a b : FundingBody) : Prop :=
  ∀ year, ¬(a.holds year = true ∧ b.holds year = true)

instance : Std.Symm FundingBody.Apart where
  symm _ _ h year hboth := h year hboth.symm

theorem FundingBody.apart_of_lt {a b : FundingBody}
    (h : (a.lastYear.any fun last => b.firstYear.any (last < ·)) = true) : a.Apart b := by
  obtain ⟨last, hlast, h⟩ := (Option.any_eq_true _ _).1 h
  obtain ⟨first, hfirst, hlt⟩ := (Option.any_eq_true _ _).1 h
  rintro year ⟨ha, hb⟩
  simp only [holds, hlast, hfirst, Option.all_some, Bool.and_eq_true,
    decide_eq_true_eq] at ha hb hlt
  omega

/-- The years of the funding bodies do not overlap. -/
theorem fundingBodies_apart : fundingBodies.Pairwise FundingBody.Apart := by
  have hordered : fundingBodies.Pairwise fun a b =>
      (a.lastYear.any fun last => b.firstYear.any (last < ·)) = true := by decide
  exact hordered.imp FundingBody.apart_of_lt

theorem eq_of_holds {a b : FundingBody} (ha : a ∈ fundingBodies) (hb : b ∈ fundingBodies)
    {year : Int} (hholds : a.holds year = true) (hother : b.holds year = true) : a = b := by
  by_contra hne
  exact fundingBodies_apart.forall ha hb hne year ⟨hholds, hother⟩

theorem nodup_label_fundingBodies : (fundingBodies.map (·.label)).Nodup := by decide +kernel

/-! ### Notices in any width -/

/-- **There is a notice** if and only if there is something to say, whatever the width. -/
theorem noticeIn_eq_nil_iff (width : Int) {years : List Int} {credit : Credit} :
    noticeIn width years credit = .ok [] ↔ sentences years credit = [] := by
  constructor
  · intro h
    by_contra hsaid
    obtain ⟨t, ws, hwords⟩ := noticeWords_cons hsaid
    rw [noticeIn, notice, hwords] at h
    split at h
    · simp at h
    · next hwidth =>
      have hpositive : 0 < width.toNat := by
        have : ¬width ≤ 0 := fun hle => hwidth ⟨hle, List.cons_ne_nil _ _⟩
        omega
      obtain ⟨t', rest, hfill⟩ := Text.fill_cons hpositive (.char 'C') t ws
      rw [hfill] at h
      exact List.cons_ne_nil _ _ (Except.ok.inj h)
  · intro h
    have hwords : noticeWords years credit = [] := by
      rw [noticeWords, h]
      rfl
    rw [noticeIn, notice, hwords, if_neg (by simp)]
    rfl

theorem sentences_eq_nil_iff {years : List Int} {bodies : List FundingBody}
    (hlabels : (bodies.map (·.label)).Nodup) : sentences years (.bodies bodies) = [] ↔
      ∀ year ∈ years, ∀ body ∈ bodies, body.holds year = false := by
  rw [sentences_eq, List.map_eq_nil_iff, ← List.map_eq_nil_iff (f := (·.body)),
    List.eq_nil_iff_forall_not_mem]
  simp only [mem_map_body_mentions_iff hlabels]
  constructor
  · intro h year hyear body hbody
    by_contra hholds
    rw [Bool.not_eq_false] at hholds
    obtain ⟨first, hfirst⟩ := exists_isFirstHolder_iff.2 ⟨body, hbody, hholds⟩
    exact h first ⟨year, hyear, hfirst⟩
  · rintro h first ⟨year, hyear, hfirst⟩
    have hholds := hfirst.holds
    rw [h year hyear first hfirst.mem] at hholds
    exact Bool.noConfusion hholds

end Copyright

namespace Prologue

open Copyright

/-! ### The years of a prologue -/

theorem years_pairwise (p : Prologue) : p.years.Pairwise (· < ·) :=
  pairwise_ascending Int.lt_trans Int.lt_trichotomy _

theorem creditedYears_pairwise (p : Prologue) (currentYear : Int) :
    (p.creditedYears currentYear).Pairwise (· < ·) := by
  rw [creditedYears]
  split
  · exact List.pairwise_singleton _ _
  · exact p.years_pairwise

theorem content_creditYears {p : Prologue} (h : p.lacks "Copyright" = true) (holder : Option Text)
    (currentYear : Int) :
    (p.creditYears holder currentYear).content "Copyright" = p.credited holder currentYear := by
  rw [creditYears_eq, if_pos h, content, find_setContent (p.credited_spec holder currentYear).1,
    if_pos rfl]

/-- **Every year is credited once.** For ascending years and bodies whose labels differ, a notice
mentions, in the order of the bodies, those that are the first holders of some year, each with the
maximal runs of the years that it is the first holder of. A year that is held is named in one
mention, and one that is not held in none; without a year that is held there is no notice. A notice
for one holder credits all years to it. The notice that a prologue without one is given names each
year of the history, or the current one, in one sentence: that of the only funding body whose years
it belongs to. -/
theorem credits_each_year_once (years : List Int) (hyears : years.Pairwise (· < ·))
    (bodies : List FundingBody) (hlabels : (bodies.map (·.label)).Nodup) (name : Text) :
    (∃ ms : List Mention, (ms.map (·.body)).Sublist bodies ∧
      (∀ body, body ∈ ms.map (·.body) ↔ ∃ year ∈ years, IsFirstHolder bodies body year) ∧
      (∀ m ∈ ms, IsMaximal m.runs ∧
        ∀ year, m.names year = true ↔ year ∈ years ∧ IsFirstHolder bodies m.body year) ∧
      (∀ year, ms.countP (·.names year) =
        if year ∈ years ∧ ∃ body ∈ bodies, body.holds year = true then 1 else 0) ∧
      noticeText years (.bodies bodies) = phrased (ms.map Mention.text)) ∧
    (∀ width, noticeIn width years (.bodies bodies) = .ok [] ↔
      ∀ year ∈ years, ∀ body ∈ bodies, body.holds year = false) ∧
    (∃ rs : List YearRun, IsMaximal rs ∧ (∀ year, (∃ r ∈ rs, year ∈ r) ↔ year ∈ years) ∧
      noticeText years (.holder name) =
        phrased (if years = [] then [] else [attribution rs name.trim])) ∧
    (∀ width credit, notice width years credit =
      Text.fill width (noticeText years credit).words) ∧
    ∀ (p : Prologue) (currentYear : Int), p.lacks "Copyright" = true →
      ∃ ms : List Mention, (ms.map (·.body)).Sublist fundingBodies ∧
        (p.creditYears none currentYear).content "Copyright" =
          Text.fill noticeWidth (phrased (ms.map Mention.text)).words ∧
        (∀ year, ms.countP (·.names year) =
          if year ∈ p.creditedYears currentYear then 1 else 0) ∧
        ∀ m ∈ ms, IsMaximal m.runs ∧ ∀ year, m.names year = true →
          ∀ body ∈ fundingBodies, body.holds year = true ↔ body = m.body := by
  refine ⟨⟨mentions years bodies, ?_, fun body => mem_map_body_mentions_iff hlabels,
    fun m => mentions_spec hyears hlabels, countP_mentions hyears hlabels, ?_⟩,
    fun width => (noticeIn_eq_nil_iff width).trans (sentences_eq_nil_iff hlabels),
    ⟨runs years, isMaximal_runs hyears, fun year => exists_mem_runs_iff hyears, ?_⟩,
    fun width credit => notice_eq width years credit, fun p currentYear hlacks => ?_⟩
  · rw [map_body_mentions]
    exact List.filter_sublist
  · rw [noticeText_eq, sentences_eq]
  · rw [noticeText_eq, sentences]
    cases years with
    | nil => rfl
    | cons year years => rfl
  · have hcredited := p.creditedYears_pairwise currentYear
    refine ⟨mentions (p.creditedYears currentYear) fundingBodies, ?_, ?_, fun year => ?_,
      fun m hm => ?_⟩
    · rw [map_body_mentions]
      exact List.filter_sublist
    · rw [content_creditYears hlacks, credited, notice_eq, noticeText_eq, sentences_eq]
    · rw [countP_mentions hcredited nodup_label_fundingBodies]
      obtain ⟨body, hbody, hfirst⟩ := exists_holder year
      have hheld : ∃ body ∈ fundingBodies, body.holds year = true :=
        ⟨body, hbody, (isFirstHolder_iff.2 hfirst).holds⟩
      simp [hheld]
    · obtain ⟨hmaximal, hnames⟩ := mentions_spec hcredited nodup_label_fundingBodies hm
      refine ⟨hmaximal, fun year hnamed body hbody => ?_⟩
      have hfirst := ((hnames year).1 hnamed).2
      constructor
      · intro hholds
        exact eq_of_holds hbody hfirst.mem hholds hfirst.holds
      · rintro rfl
        exact hfirst.holds

/-- Two bodies whose years overlap, and a year that nobody holds. -/
theorem credits_each_year_once_overlapping :
    ([1990, 1991, 1993, 2000] : List Int).Pairwise (· < ·) ∧
    ([⟨"A", none, some 1991⟩, ⟨"B  C", some 1990, some 1995⟩] : List FundingBody).map (·.label) =
      [Text.ofString "A", Text.ofString "B  C"] ∧
    ∃ ms : List Mention, ms.countP (·.names 1990) = 1 ∧ ms.countP (·.names 2000) = 0 ∧
      phrased (ms.map Mention.text) =
        Text.ofString "Copyright (C) 1990-1991 A. Copyright (C) 1993 B C. All Rights Reserved." := by
  have hyears : ([1990, 1991, 1993, 2000] : List Int).Pairwise (· < ·) := by decide
  obtain ⟨⟨ms, -, -, -, hnamed, htext⟩, -⟩ := credits_each_year_once [1990, 1991, 1993, 2000] hyears
    [⟨"A", none, some 1991⟩, ⟨"B  C", some 1990, some 1995⟩] (by decide +kernel) "Me"
  refine ⟨hyears, rfl, ms, ?_, ?_, ?_⟩
  · rw [hnamed]
    decide
  · rw [hnamed]
    decide
  · rw [← htext]
    decide +kernel

end Prologue

end SourcePrologue

import SourcePrologue.Copyright.Notice
import SourcePrologue.Proofs.Text.Fill
import SourcePrologue.Proofs.Text.Lines

/-!
# Copyright notices are lines

A notice for at least one year has lines, whoever is credited: every year has a holder among the
funding bodies (`exists_holder`). The first line begins with a capital C (`notice_cons`), and no line
holds a line end, whatever the holder's name holds (`isLine_of_mem_notice`).
-/

namespace SourcePrologue.Copyright

/-- Every year has a holder. -/
theorem exists_holder (year : Int) : ∃ body ∈ fundingBodies,
    fundingBodies.find? (·.holds year) = some body := by
  have hsome : (fundingBodies.find? (·.holds year)).isSome = true := by
    rw [List.find?_isSome]
    by_cases h1994 : year ≤ 1994
    · exact ⟨_, List.mem_cons_self, by simp [FundingBody.holds, h1994]⟩
    · by_cases h2004 : year ≤ 2004
      · refine ⟨_, List.mem_cons_of_mem _ List.mem_cons_self, ?_⟩
        simp [FundingBody.holds, h2004]
        omega
      · by_cases h2006 : year ≤ 2006
        · refine ⟨_, List.mem_cons_of_mem _ (List.mem_cons_of_mem _ List.mem_cons_self), ?_⟩
          simp [FundingBody.holds, h2006]
          omega
        · refine ⟨_, List.mem_cons_of_mem _ (List.mem_cons_of_mem _
            (List.mem_cons_of_mem _ List.mem_cons_self)), ?_⟩
          simp [FundingBody.holds]
          omega
  obtain ⟨body, hbody⟩ := Option.isSome_iff_exists.1 hsome
  exact ⟨body, List.mem_of_find?_eq_some hbody, hbody⟩

theorem sentences_holder {years : List Int} (h : years ≠ []) (name : Text) :
    sentences years (.holder name) ≠ [] := by
  rw [sentences, if_neg (by simpa using h)]
  simp

theorem sentences_bodies {years : List Int} (h : years ≠ []) :
    sentences years (.bodies fundingBodies) ≠ [] := by
  obtain ⟨year, rest, rfl⟩ := List.exists_cons_of_ne_nil h
  obtain ⟨body, hbody, hfind⟩ := exists_holder year
  have hshare : share fundingBodies body.label (year :: rest) ≠ [] := by
    refine List.ne_nil_of_mem (a := year) (List.mem_filter.2 ⟨List.mem_cons_self, ?_⟩)
    rw [hfind]
    simp
  intro hnone
  have hsentence := List.filterMap_eq_nil_iff.1 hnone body hbody
  simp [hshare] at hsentence

/-- A sentence begins with a capital C. -/
theorem sentence_of_mem {years : List Int} {credit : Credit} {said : Text}
    (h : said ∈ sentences years credit) : ∃ t, said = .char 'C' :: t := by
  cases credit with
  | holder name =>
    rw [sentences] at h
    split at h
    · simp at h
    · rw [List.mem_singleton.1 h]
      exact ⟨_, rfl⟩
  | bodies bodies =>
    obtain ⟨body, -, hbody⟩ := List.mem_filterMap.1 h
    simp only at hbody
    split at hbody
    · simp at hbody
    · rw [← Option.some.inj hbody]
      exact ⟨_, rfl⟩

theorem noticeWords_cons {years : List Int} {credit : Credit} (h : sentences years credit ≠ []) :
    ∃ t ws, noticeWords years credit = (.char 'C' :: t) :: ws := by
  obtain ⟨said, rest, hsaid⟩ := List.exists_cons_of_ne_nil h
  obtain ⟨t, rfl⟩ := sentence_of_mem (hsaid ▸ List.mem_cons_self : said ∈ sentences years credit)
  obtain ⟨v, vs, hvs⟩ := List.exists_cons_of_ne_nil
    (List.append_ne_nil_of_right_ne_nil rest (List.cons_ne_nil closingPhrase []))
  have hblank : (Glyph.char 'C').isBlank = false := by decide
  obtain ⟨piece, ws, hwords⟩ := Text.words_cons hblank (t ++ .char ' ' :: Text.unwords (v :: vs))
  refine ⟨piece, ws, ?_⟩
  rw [noticeWords, if_neg (by simpa using h), hsaid, List.cons_append, hvs, Text.unwords_cons_cons]
  exact hwords

/-- **The first line of a notice** begins with a capital C. -/
theorem notice_cons {years : List Int} {credit : Credit} (h : sentences years credit ≠ []) :
    ∃ t rest, notice noticeWidth years credit = (.char 'C' :: t) :: rest := by
  obtain ⟨t, ws, hwords⟩ := noticeWords_cons h
  rw [notice, hwords]
  exact Text.fill_cons (by decide) _ t ws

/-- **The lines of a notice** hold no line ends. -/
theorem isLine_of_mem_notice {width : Nat} {years : List Int} {credit : Credit} {line : Text}
    (h : line ∈ notice width years credit) : line.IsLine := by
  have hwords : ∀ w ∈ noticeWords years credit, ∀ g ∈ w,
      g ≠ Text.newline ∧ g ≠ Text.carriageReturn := by
    intro w hw
    rw [noticeWords] at hw
    split at hw
    · simp at hw
    · exact Text.isLine_iff.1 (Text.isLine_of_isSolid (Text.mem_words hw).1)
  exact Text.isLine_iff.2 (Text.mem_fill (by decide) hwords width line h)

end SourcePrologue.Copyright

import SourcePrologue.Proofs.Prologue.Credit
import SourcePrologue.Proofs.Text.Setting

/-!
# The lines of a notice

What becomes of the text of a copyright notice when it is laid out.

* **`noticeIn_fits`** — in any width there is, the lines fit and lose nothing but white space, and
  words that fit are set as tightly as possible;
* **`yearList`** — the years of a sentence, one word however many there are, and
  **`length_yearList_le`**, how long it is;
* **`share_fundingBodies`** — the years credited to a funding body are those that it holds;
* **`notice_whole_iff`** — a notice for the funding bodies keeps its words whole just in case the
  years before 1995 and those after 2006 fit on a line each, and **`notice_cuts_year`** shows that
  they may not.
-/

namespace SourcePrologue.Copyright

/-! ### Notices in any width -/

theorem isSolid_of_mem_noticeWords {years : List Int} {credit : Credit} {w : Text}
    (h : w ∈ noticeWords years credit) : Text.IsSolid w := by
  rw [← words_noticeText] at h
  exact (Text.mem_words h).1

/-- **The lines of a notice** of any width: none is empty or longer than the width, and they hold
the text but for white space. If every word fits, the lines joined with single spaces are the text,
and no line had room for the first word of the next one. -/
theorem noticeIn_fits (years : List Int) (credit : Credit) {width : Int} (hwidth : 1 ≤ width) :
    ∃ lines, noticeIn width years credit = .ok lines ∧
      (∀ line ∈ lines, line ≠ [] ∧ line.length ≤ width) ∧
      Text.unspaced lines.flatten = (noticeText years credit).unspaced ∧
      ((∀ w ∈ (noticeText years credit).words, w.length ≤ width) →
        Text.unwords lines = noticeText years credit ∧
        lines.IsChain fun line next =>
          ∃ w, next.words.head? = some w ∧ width < line.length + 1 + w.length) := by
  obtain ⟨n, rfl⟩ := Int.eq_ofNat_of_zero_le (Int.le_trans Int.one_nonneg hwidth)
  have hpositive : 0 < n := by omega
  refine ⟨notice n years credit, ?_, ?_, Text.unspaced_fill n _, fun hfits => ?_⟩
  · rw [noticeIn, if_neg fun h => by omega, Int.toNat_natCast]
  · intro line hline
    obtain ⟨hne, hlength⟩ := Text.fill_fits hpositive _ line hline
    exact ⟨hne, Int.ofNat_le.2 hlength⟩
  · have hsolid : ∀ w ∈ noticeWords years credit, Text.IsSolid w := fun w =>
      isSolid_of_mem_noticeWords
    have hlength : ∀ w ∈ noticeWords years credit, w.length ≤ n := fun w hw =>
      Int.ofNat_le.1 (hfits w (by rwa [words_noticeText]))
    refine ⟨(Text.unwords_fill_iff hpositive hsolid).2 hlength, ?_⟩
    refine (Text.isChain_fill hsolid hlength).imp ?_
    rintro line next ⟨w, hw, htight⟩
    exact ⟨w, hw, by omega⟩

/-- In a narrow width words are cut, and nothing but white space is lost. -/
theorem noticeIn_fits_narrow : (1 : Int) ≤ 12 ∧
    noticeIn 12 [1993, 1994, 1996] (.holder "Me") = .ok ["Copyright", "(C) 1993-199", "4,1996 Me.",
      "All Rights", "Reserved."] ∧
    ∃ lines, noticeIn 12 [1993, 1994, 1996] (.holder "Me") = .ok lines ∧
      (∀ line ∈ lines, line ≠ [] ∧ line.length ≤ (12 : Int)) ∧
      Text.unspaced lines.flatten =
        Text.ofString "Copyright(C)1993-1994,1996Me.AllRightsReserved." := by
  have hwidth : (1 : Int) ≤ 12 := by decide
  obtain ⟨lines, hlines, hfits, hkept, -⟩ := noticeIn_fits [1993, 1994, 1996] (.holder "Me") hwidth
  refine ⟨hwidth, by rfl, lines, hlines, hfits, ?_⟩
  rw [hkept]
  decide

/-! ### The years of a sentence -/

/-- Years as a sentence names them, the runs with commas between them. -/
def yearList (years : List Int) : Text := Text.join (Text.ofChar ',') (compress years)

variable {years : List Int}

/-- A written number has digits and hyphens only. -/
theorem mem_ofInt {n : Int} {g : Glyph} (h : g ∈ Text.ofInt n) :
    g = .char '-' ∨ ∃ c : Char, c.isDigit = true ∧ g = .char c := by
  have hdigit : ∀ k : Nat, g ∈ (Nat.toDigits 10 k).map Glyph.char →
      ∃ c : Char, c.isDigit = true ∧ g = .char c := by
    intro k hg
    obtain ⟨c, hc, rfl⟩ := List.mem_map.1 hg
    exact ⟨c, Nat.isDigit_of_mem_toDigits (by decide) (by decide) hc, rfl⟩
  cases n with
  | ofNat k => exact Or.inr (hdigit k h)
  | negSucc k => exact (List.mem_cons.1 h).imp_right (hdigit (k + 1))

theorem isBlank_of_mem_ofInt {n : Int} {g : Glyph} (h : g ∈ Text.ofInt n) : g.isBlank = false := by
  rcases mem_ofInt h with rfl | ⟨c, hdigit, rfl⟩
  · decide
  · have hascii : c.toNat < 128 := by
      simp only [Char.isDigit, Bool.and_eq_true, decide_eq_true_eq] at hdigit
      have hle := UInt32.le_iff_toNat_le.1 hdigit.2
      exact Nat.lt_of_le_of_lt hle (by decide)
    exact Unicode.forall_ascii (P := fun c => c.isDigit = true → (Glyph.char c).isBlank = false)
      (by decide) hascii hdigit

theorem length_ofInt_le {n : Int} (hlow : 0 ≤ n) (hhigh : n ≤ 9999) :
    (Text.ofInt n).length ≤ 4 := by
  obtain ⟨k, rfl⟩ := Int.eq_ofNat_of_zero_le hlow
  have hdigits := (Nat.length_toDigits_le_iff (n := k) (k := 4) (by decide : 1 < 10) (by decide)).2
    (by omega)
  show ((Nat.toDigits 10 k).map Glyph.char).length ≤ 4
  rwa [List.length_map]

namespace YearRun

variable {r : YearRun}

theorem isBlank_of_mem_text {g : Glyph} (h : g ∈ r.text) : g.isBlank = false := by
  rw [text] at h
  split at h
  · rcases List.mem_append.1 h with h | h
    · rcases List.mem_append.1 h with h | h
      · exact isBlank_of_mem_ofInt h
      · rw [List.mem_singleton.1 h]
        decide
    · exact isBlank_of_mem_ofInt h
  · exact isBlank_of_mem_ofInt h

theorem text_ne_nil (r : YearRun) : r.text ≠ [] := by
  have hne : Text.ofInt r.first ≠ [] := by
    cases r.first with
    | ofNat k =>
      have hdigits := Nat.length_toDigits_pos (b := 10) (n := k)
      exact fun hnil => by simp [List.map_eq_nil_iff.1 hnil] at hdigits
    | negSucc k => exact List.cons_ne_nil _ _
  rw [text]
  split
  · simp [hne]
  · exact hne

/-- Two years of four digits and the hyphen. -/
theorem length_text_le (hlow : 0 ≤ r.first) (hlast : r.first ≤ r.last) (hhigh : r.last ≤ 9999) :
    r.text.length ≤ 9 := by
  have hfirst := length_ofInt_le hlow (hlast.trans hhigh)
  have hend := length_ofInt_le (hlow.trans hlast) hhigh
  rw [text]
  split
  · rw [List.length_append, List.length_append]
    have hhyphen : (Text.ofChar '-').length = 1 := rfl
    omega
  · omega

end YearRun

/-- **The years of a sentence are one word.** -/
theorem isSolid_yearList (h : years ≠ []) : Text.IsSolid (yearList years) := by
  constructor
  · obtain ⟨r, rs, hruns⟩ := List.exists_cons_of_ne_nil (runs_ne_nil h)
    have hfirst := r.text_ne_nil
    rw [yearList, compress, hruns, List.map_cons]
    cases hrest : rs.map YearRun.text with
    | nil => exact hfirst
    | cons t ts => simp [Text.join, hfirst]
  · intro g hg
    rcases Text.mem_join hg with hg | ⟨t, ht, hg⟩
    · rw [List.mem_singleton.1 hg]
      decide
    · obtain ⟨r, -, rfl⟩ := List.mem_map.1 ht
      exact YearRun.isBlank_of_mem_text hg

/-- **How long the years of a sentence are**, four digits each. -/
theorem length_yearList_le (hyears : years.Pairwise (· < ·))
    (hrange : ∀ year ∈ years, 0 ≤ year ∧ year ≤ 9999) :
    (yearList years).length ≤ 10 * (runs years).length := by
  have hlength : ∀ t ∈ compress years, t.length ≤ 9 := by
    intro t ht
    obtain ⟨r, hr, rfl⟩ := List.mem_map.1 ht
    obtain ⟨hbegun, hfirst, hlast⟩ := ends_mem_of_mem_runs hyears hr
    exact YearRun.length_text_le (hrange _ hfirst).1 hbegun (hrange _ hlast).2
  have hjoined := Text.length_join_le (c := ',') hlength
  rwa [compress, List.length_map] at hjoined

/-- Every other year at the most begins a run. -/
theorem length_yearList_le_of_within (hyears : years.Pairwise (· < ·)) {low high : Int}
    (hwithin : ∀ year ∈ years, low ≤ year ∧ year ≤ high) (hlow : 0 ≤ low) (hhigh : high ≤ 9999)
    (horder : low ≤ high) : (yearList years).length ≤ 5 * (high - low + 2) := by
  have hlength := length_yearList_le hyears fun year hyear =>
    ⟨hlow.trans (hwithin year hyear).1, (hwithin year hyear).2.trans hhigh⟩
  have hends : ∀ r ∈ runs years, low ≤ r.first ∧ r.last ≤ high := fun r hr =>
    have hyear := (ends_mem_of_mem_runs hyears hr).2
    ⟨(hwithin _ hyear.1).1, (hwithin _ hyear.2).2⟩
  have hruns := (isMaximal_runs hyears).two_mul_length_le hends (by omega)
  omega

/-! ### The words of a notice -/

theorem words_sentence (h : years ≠ []) (holder : Text) : (sentence years holder).words =
    Text.ofString "Copyright" :: Text.ofString "(C)" :: yearList years ::
      (holder ++ Text.ofChar '.').words := by
  have hspace : (Glyph.char ' ').isBlank = true := by decide
  have hsentence : sentence years holder = Text.ofString "Copyright" ++ .char ' ' ::
      (Text.ofString "(C)" ++ .char ' ' ::
        (yearList years ++ .char ' ' :: (holder ++ Text.ofChar '.'))) := by
    simp [sentence, yearList, Text.ofString, Text.ofChar]
  rw [hsentence, Text.words_append_blank (by decide) hspace,
    Text.words_append_blank (by decide) hspace,
    Text.words_append_blank (isSolid_yearList h) hspace]

theorem mem_sentences_iff {bodies : List FundingBody} {said : Text} :
    said ∈ sentences years (.bodies bodies) ↔ ∃ body ∈ bodies, share bodies body.label years ≠ [] ∧
      said = sentence (share bodies body.label years) body.label := by
  rw [sentences, List.mem_filterMap]
  refine exists_congr fun body => and_congr_right fun _ => ?_
  cases share bodies body.label years with
  | nil => simp
  | cons year rest => simp [eq_comm]

theorem mem_noticeWords_iff {credit : Credit} {w : Text} : w ∈ noticeWords years credit ↔
    sentences years credit ≠ [] ∧
      (w ∈ closingPhrase.words ∨ ∃ said ∈ sentences years credit, w ∈ said.words) := by
  rw [noticeWords]
  split
  · next hnone => simp [List.isEmpty_iff.1 hnone]
  · next hsaid =>
    rw [Text.words_unwords_eq_flatMap, List.flatMap_append, List.flatMap_singleton, List.mem_append,
      List.mem_flatMap, or_comm]
    simp only [List.isEmpty_iff] at hsaid
    simp [hsaid]

/-! ### Notices for the funding bodies -/

/-- **The years credited to a funding body** are those that it holds. -/
theorem share_fundingBodies {body : FundingBody} (hbody : body ∈ fundingBodies)
    (years : List Int) : share fundingBodies body.label years = years.filter body.holds := by
  refine List.filter_congr fun year _ => ?_
  obtain ⟨holder, hholder, hfind⟩ := exists_holder year
  have hholds : holder.holds year = true := (isFirstHolder_iff.2 hfind).holds
  rw [hfind, Option.any_some]
  by_cases hsame : holder = body
  · rw [← hsame, hholds]
    exact beq_self_eq_true _
  · have hlabel : holder.label ≠ body.label := fun hlabel =>
      hsame (List.inj_on_of_nodup_map nodup_label_fundingBodies hholder hbody hlabel)
    have hother : body.holds year = false := by
      by_contra hother
      rw [Bool.not_eq_false] at hother
      exact hsame (eq_of_holds hholder hbody hholds hother)
    rw [hother, beq_eq_false_iff_ne]
    exact hlabel

/-- All words but the years are short. -/
theorem length_le_noticeWidth : (∀ body ∈ fundingBodies,
      ∀ w ∈ (body.label ++ Text.ofChar '.').words, w.length ≤ noticeWidth) ∧
    ∀ w ∈ closingPhrase.words, w.length ≤ noticeWidth := by
  decide

theorem forall_noticeWords_iff : (∀ w ∈ noticeWords years (.bodies fundingBodies),
    w.length ≤ noticeWidth) ↔
      ∀ body ∈ fundingBodies, (yearList (years.filter body.holds)).length ≤ noticeWidth := by
  constructor
  · intro h body hbody
    by_cases hshare : share fundingBodies body.label years = []
    · rw [← share_fundingBodies hbody, hshare]
      exact Nat.zero_le _
    · have hsaid := mem_sentences_iff.2 ⟨body, hbody, hshare, rfl⟩
      refine h _ (mem_noticeWords_iff.2 ⟨List.ne_nil_of_mem hsaid, Or.inr ⟨_, hsaid, ?_⟩⟩)
      rw [words_sentence hshare, share_fundingBodies hbody]
      simp
  · intro h w hw
    obtain ⟨hlabels, hclosing⟩ := length_le_noticeWidth
    obtain ⟨-, hw | ⟨said, hsaid, hw⟩⟩ := mem_noticeWords_iff.1 hw
    · exact hclosing w hw
    · obtain ⟨body, hbody, hshare, rfl⟩ := mem_sentences_iff.1 hsaid
      rw [words_sentence hshare, share_fundingBodies hbody, List.mem_cons, List.mem_cons,
        List.mem_cons] at hw
      rcases hw with rfl | rfl | rfl | hw
      · decide
      · decide
      · exact h body hbody
      · exact hlabels body hbody w hw

theorem forall_fundingBodies_iff (hyears : years.Pairwise (· < ·)) :
    (∀ body ∈ fundingBodies, (yearList (years.filter body.holds)).length ≤ noticeWidth) ↔
      (yearList (years.filter (· ≤ 1994))).length ≤ noticeWidth ∧
      (yearList (years.filter (2007 ≤ ·))).length ≤ noticeWidth := by
  have hmiddle : ∀ low high : Int, 0 ≤ low → high ≤ 9999 → low ≤ high → high ≤ low + 11 →
      ∀ label, (yearList (years.filter (FundingBody.holds ⟨label, some low, some high⟩))).length ≤
        noticeWidth := by
    intro low high hlow hhigh horder hshort label
    have hwithin : ∀ year ∈ years.filter (FundingBody.holds ⟨label, some low, some high⟩),
        low ≤ year ∧ year ≤ high := fun year hyear => by
      simpa [FundingBody.holds] using (List.mem_filter.1 hyear).2
    have hlength := length_yearList_le_of_within (hyears.filter _) hwithin hlow hhigh horder
    show _ ≤ 66
    omega
  have hfirst : ∀ label, years.filter (FundingBody.holds ⟨label, none, some 1994⟩) =
      years.filter (· ≤ 1994) := fun label => List.filter_congr fun year _ => by
    simp [FundingBody.holds]
  have hlast : ∀ label, years.filter (FundingBody.holds ⟨label, some 2007, none⟩) =
      years.filter (2007 ≤ ·) := fun label => List.filter_congr fun year _ => by
    simp [FundingBody.holds]
  simp only [fundingBodies, List.forall_mem_cons, List.not_mem_nil, false_imp_iff, implies_true,
    and_true, hfirst, hlast, hmiddle 1995 2004 (by decide) (by decide) (by decide) (by decide),
    hmiddle 2005 2006 (by decide) (by decide) (by decide) (by decide), true_and]

theorem unwords_notice_iff (hyears : years.Pairwise (· < ·)) :
    Text.unwords (notice noticeWidth years (.bodies fundingBodies)) =
        noticeText years (.bodies fundingBodies) ↔
      (yearList (years.filter (· ≤ 1994))).length ≤ noticeWidth ∧
      (yearList (years.filter (2007 ≤ ·))).length ≤ noticeWidth := by
  rw [← forall_fundingBodies_iff hyears, ← forall_noticeWords_iff]
  exact Text.unwords_fill_iff (by decide) fun w => isSolid_of_mem_noticeWords

/-- **When a notice keeps its words whole.** The lines of a notice for the funding bodies, joined
with single spaces, are its text if and only if the years up to 1994 and those from 2007 on are each
no longer than a line; then no word, and so no year and no run of years, goes over two lines. Six
runs of years of four digits are never too long. -/
theorem notice_whole_iff (years : List Int) (hyears : years.Pairwise (· < ·)) :
    (Text.unwords (notice noticeWidth years (.bodies fundingBodies)) =
        noticeText years (.bodies fundingBodies) ↔
      (yearList (years.filter (· ≤ 1994))).length ≤ noticeWidth ∧
      (yearList (years.filter (2007 ≤ ·))).length ≤ noticeWidth) ∧
    ((yearList (years.filter (· ≤ 1994))).length ≤ noticeWidth →
      (yearList (years.filter (2007 ≤ ·))).length ≤ noticeWidth →
      (notice noticeWidth years (.bodies fundingBodies)).flatMap Text.words =
        (noticeText years (.bodies fundingBodies)).words) ∧
    ((∀ year ∈ years, 0 ≤ year ∧ year ≤ 9999) →
      (runs (years.filter (· ≤ 1994))).length ≤ 6 → (runs (years.filter (2007 ≤ ·))).length ≤ 6 →
      Text.unwords (notice noticeWidth years (.bodies fundingBodies)) =
        noticeText years (.bodies fundingBodies)) := by
  have hwhole := unwords_notice_iff hyears
  refine ⟨hwhole, fun hfirst hlast => ?_, fun hrange hfirst hlast => hwhole.2 ?_⟩
  · rw [← Text.words_unwords_eq_flatMap, hwhole.2 ⟨hfirst, hlast⟩]
  · have hshort : ∀ p : Int → Bool, (runs (years.filter p)).length ≤ 6 →
        (yearList (years.filter p)).length ≤ 66 := by
      intro p hruns
      have hlength := length_yearList_le (hyears.filter p) fun year hyear =>
        hrange year (List.mem_filter.1 hyear).1
      omega
    exact ⟨hshort _ hfirst, hshort _ hlast⟩

/-- Fourteen years of which no two are in a row. -/
def scattered : List Int :=
  [1966, 1968, 1970, 1972, 1974, 1976, 1978, 1980, 1982, 1984, 1986, 1988, 1990, 1992]

/-- Thirteen of them go on one line, whatever comes later. -/
theorem notice_whole_iff_thirteen : (scattered.tail ++ [1995, 2008]).Pairwise (· < ·) ∧
    Text.unwords (notice noticeWidth (scattered.tail ++ [1995, 2008]) (.bodies fundingBodies)) =
      noticeText (scattered.tail ++ [1995, 2008]) (.bodies fundingBodies) := by
  have hascending : (scattered.tail ++ [1995, 2008]).Pairwise (· < ·) := by decide
  refine ⟨hascending, ((notice_whole_iff _ hascending).1).2 ⟨?_, ?_⟩⟩ <;> decide

/-- **All fourteen do not**: one of them is cut. -/
theorem notice_cuts_year : scattered.Pairwise (· < ·) ∧
    (∀ year ∈ scattered, 0 ≤ year ∧ year ≤ 9999) ∧
    notice noticeWidth scattered (.bodies fundingBodies) =
      [Text.ofString "Copyright (C) 1966,1968,1970,1972,1974,1976,1978,1980,1982,1984,19",
        Text.ofString "86,1988,1990,1992 Science & Engineering Research Council. All",
        Text.ofString "Rights Reserved."] ∧
    Text.unwords (notice noticeWidth scattered (.bodies fundingBodies)) ≠
      noticeText scattered (.bodies fundingBodies) := by
  have hascending : scattered.Pairwise (· < ·) := by decide
  refine ⟨hascending, by decide, by decide +kernel, ?_⟩
  rw [Ne, unwords_notice_iff hascending]
  decide

end SourcePrologue.Copyright

import SourcePrologue.Proofs.Text.Words
import SourcePrologue.Text.Letters

/-!
# Words that are capitalised again

What the case mappings make of what they have made. The tables are inspected run by run: no run of
capitals leads to capitals (`leadsPast_lowerRuns`), and a run of small letters is moved back by a run
of capitals, or its few letters are looked at one by one (`leadsBack_titleRuns`).

* **`Unicode.lower_of_mem_lower`** — a small letter is its own small form;
* **`Unicode.title_cases`** — a small letter comes back from its title-case form, or at least its
  title-case form does when it is put into small letters and capitalised again. The one exception is
  the letter n behind an apostrophe, U+0149, which becomes an apostrophe and a capital;
* **`Text.isSolid_capitalize`** — no blank comes into a word that is capitalised;
* **`Text.lower_capitalize`** — what a capitalised word is in small letters;
* **`Text.capitalize_capitalize_iff`** — so capitalising a word again changes nothing, unless it
  begins with that letter.
-/

namespace SourcePrologue

namespace Unicode

/-! ### Runs of letters -/

namespace CaseRun

/-- Whether a run covers a code point. -/
def Covers (r : CaseRun) (n : Nat) : Prop :=
  r.first ≤ n ∧ n ≤ r.last ∧ (n - r.first) % r.step = 0

theorem exists_of_lookup {runs : List CaseRun} {n k : Nat} (h : lookup runs n = some k) :
    ∃ r ∈ runs, r.Covers n ∧ k = Int.toNat (n + r.shift) := by
  induction runs with
  | nil => simp [lookup] at h
  | cons r rest ih =>
    rw [lookup] at h
    split at h
    · simp at h
    · next hfirst =>
      split at h
      · next hlast =>
        split at h
        · next hstep =>
          exact ⟨r, List.mem_cons_self, ⟨by omega, hlast, hstep⟩, (Option.some.inj h).symm⟩
        · simp at h
      · obtain ⟨q, hq, hqn⟩ := ih h
        exact ⟨q, List.mem_cons_of_mem r hq, hqn⟩

/-- Whether runs ascend from a code point on. -/
def ascend (low : Nat) : List CaseRun → Bool
  | [] => true
  | r :: rest => low ≤ r.first && r.first ≤ r.last && ascend (r.last + 1) rest

theorem le_of_ascend {runs : List CaseRun} {low : Nat} (h : ascend low runs = true) {r : CaseRun}
    (hr : r ∈ runs) : low ≤ r.first := by
  induction runs generalizing low with
  | nil => simp at hr
  | cons s rest ih =>
    simp only [ascend, Bool.and_eq_true, decide_eq_true_eq] at h
    rcases List.mem_cons.1 hr with rfl | hr
    · exact h.1.1
    · have hbeyond := ih h.2 hr
      omega

/-- In ascending runs a code point is moved by the run that covers it. -/
theorem lookup_of_covers {runs : List CaseRun} {low : Nat} (h : ascend low runs = true)
    {r : CaseRun} (hr : r ∈ runs) {n : Nat} (hn : r.Covers n) :
    lookup runs n = some (Int.toNat (n + r.shift)) := by
  obtain ⟨hfirst, hlast, hstep⟩ := hn
  induction runs generalizing low with
  | nil => simp at hr
  | cons s rest ih =>
    simp only [ascend, Bool.and_eq_true, decide_eq_true_eq] at h
    rw [lookup]
    rcases List.mem_cons.1 hr with rfl | hr
    · rw [if_neg (by omega), if_pos hlast, if_pos hstep]
    · have hbeyond := le_of_ascend h.2 hr
      rw [if_neg (by omega), if_neg (by omega)]
      exact ih h.2 hr

/-- Where a run moves its first code point. -/
def target (r : CaseRun) : Nat := Int.toNat (r.first + r.shift)

/-- The code points that none of the regular letters is moved to: those of blanks, those that are
no characters, and the two characters that stand in the lists of exceptions. -/
def special : Spans := (0x130, 0x130) :: (0x149, 0x149) :: (0xD800, 0xDFFF) :: blankSpans

/-- Whether a run leads to characters, none of which is special. -/
def isPlain (r : CaseRun) : Bool :=
  Nat.blt 0 r.target && Nat.blt (r.target + (r.last - r.first)) 0x110000 &&
    special.all fun p => Nat.blt (r.target + (r.last - r.first)) p.1 || Nat.blt p.2 r.target

/-- Whether a run leads past another one: it comes to lie before it, behind it or, letter by letter,
between its letters. -/
def leadsPast (r s : CaseRun) : Bool :=
  Nat.blt (r.target + (r.last - r.first)) s.first || Nat.blt s.last r.target ||
    Nat.beq s.step 2 && (Nat.beq r.step 2 || Nat.beq r.first r.last) &&
      Nat.beq ((r.target + s.first) % 2) 1

/-- Whether a run leads to letters that another one moves back. -/
def leadsBack (r s : CaseRun) : Bool :=
  Nat.ble s.first r.target && Nat.ble (r.target + (r.last - r.first)) s.last &&
    Nat.beq (s.target + (r.target - s.first)) r.first &&
      (Nat.beq s.step 1 || Nat.beq s.step 2 && (Nat.beq r.step 2 || Nat.beq r.first r.last) &&
        Nat.beq ((r.target - s.first) % 2) 0)

variable {r s : CaseRun} {n : Nat}

theorem not_covers_of_leadsPast (h : r.leadsPast s = true) (hn : r.Covers n) :
    ¬s.Covers (r.target + (n - r.first)) := by
  obtain ⟨hfirst, hlast, hstep⟩ := hn
  rintro ⟨hfirst', hlast', hstep'⟩
  simp only [leadsPast, Bool.or_eq_true, Bool.and_eq_true, Nat.blt_eq, Nat.beq_eq] at h
  rcases h with (h | h) | ⟨⟨htwo, halternate⟩, hodd⟩
  · omega
  · omega
  · rw [htwo] at hstep'
    rcases halternate with htwo' | hone
    · rw [htwo'] at hstep
      omega
    · omega

theorem covers_of_leadsBack (h : r.leadsBack s = true) (hn : r.Covers n) :
    s.Covers (r.target + (n - r.first)) ∧
      s.target + (r.target + (n - r.first) - s.first) = n := by
  obtain ⟨hfirst, hlast, hstep⟩ := hn
  simp only [leadsBack, Bool.or_eq_true, Bool.and_eq_true, Nat.ble_eq, Nat.beq_eq] at h
  obtain ⟨⟨⟨hfirst', hlast'⟩, hback⟩, hsteps⟩ := h
  refine ⟨⟨by omega, by omega, ?_⟩, by omega⟩
  rcases hsteps with hone | ⟨⟨htwo, halternate⟩, heven⟩
  · rw [hone, Nat.mod_one]
  · rw [htwo]
    rcases halternate with htwo' | hone
    · rw [htwo'] at hstep
      omega
    · omega

/-- Where a plain run moves a code point, and that this is a regular letter. -/
theorem isPlain_spec (h : r.isPlain = true) (hn : r.Covers n) :
    Int.toNat (n + r.shift) = r.target + (n - r.first) ∧
      (Char.ofNat (Int.toNat (n + r.shift))).toNat = Int.toNat (n + r.shift) ∧
      ∀ p ∈ special, ¬(p.1 ≤ Int.toNat (n + r.shift) ∧ Int.toNat (n + r.shift) ≤ p.2) := by
  obtain ⟨hfirst, hlast, -⟩ := hn
  simp only [isPlain, Bool.and_eq_true, Bool.or_eq_true, List.all_eq_true, Nat.blt_eq] at h
  obtain ⟨⟨hpositive, hbound⟩, hspecial⟩ := h
  have hmoved : Int.toNat (n + r.shift) = r.target + (n - r.first) := by
    rw [target] at hpositive ⊢
    omega
  have hapart : ∀ p ∈ special,
      ¬(p.1 ≤ Int.toNat (n + r.shift) ∧ Int.toNat (n + r.shift) ≤ p.2) := by
    intro p hp
    have hends := hspecial p hp
    omega
  refine ⟨hmoved, ?_, hapart⟩
  have hsurrogate := hapart (0xD800, 0xDFFF) (by simp [special])
  have hvalid : (Int.toNat (n + r.shift)).isValidChar := by
    have hle : Int.toNat (n + r.shift) < 0x110000 := by omega
    simp only [not_and, Nat.not_le] at hsurrogate
    exact (Nat.lt_or_ge _ 0xD800).imp id fun hge => ⟨hsurrogate hge, hle⟩
  rw [show Char.ofNat _ = Char.ofNatAux _ hvalid from dif_pos hvalid]
  rfl

end CaseRun

/-! ### The tables -/

/-- A case mapping takes a character from its list of exceptions, moves it along with a run or
leaves it as it is. -/
theorem mapCase_cases (runs : List CaseRun) (many : List (Nat × List Nat)) (c : Char) :
    (∃ e ∈ many, e.1 = c.toNat ∧ mapCase runs many c = e.2.map Char.ofNat) ∨
      (∃ r ∈ runs, r.Covers c.toNat ∧
        mapCase runs many c = [Char.ofNat (Int.toNat (c.toNat + r.shift))]) ∨
      mapCase runs many c = [c] := by
  rw [mapCase]
  split
  · next n cs hfind =>
    have hkey : n = c.toNat := by simpa using List.find?_some hfind
    exact Or.inl ⟨(n, cs), List.mem_of_find?_eq_some hfind, hkey, rfl⟩
  · cases hl : CaseRun.lookup runs c.toNat with
    | none => exact Or.inr (Or.inr rfl)
    | some k =>
      obtain ⟨r, hr, hn, hk⟩ := CaseRun.exists_of_lookup hl
      exact Or.inr (Or.inl ⟨r, hr, hn, by rw [hk]; rfl⟩)

/-- A character that is neither an exception nor covered by a run is left as it is. -/
theorem mapCase_eq_self {runs : List CaseRun} {many : List (Nat × List Nat)} {c : Char}
    (hmany : ∀ e ∈ many, e.1 ≠ c.toNat) (hruns : ∀ r ∈ runs, ¬r.Covers c.toNat) :
    mapCase runs many c = [c] := by
  rcases mapCase_cases runs many c with ⟨e, he, hkey, -⟩ | ⟨r, hr, hn, -⟩ | h
  · exact absurd hkey (hmany e he)
  · exact absurd hn (hruns r hr)
  · exact h

/-- No character is mapped to nothing. -/
theorem mapCase_ne_nil {runs : List CaseRun} {many : List (Nat × List Nat)}
    (hmany : ∀ e ∈ many, e.2 ≠ []) (c : Char) : mapCase runs many c ≠ [] := by
  rcases mapCase_cases runs many c with ⟨e, he, -, h⟩ | ⟨r, -, -, h⟩ | h
  · rw [h]
    exact fun hnil => hmany e he (List.map_eq_nil_iff.1 hnil)
  · rw [h]
    exact List.cons_ne_nil _ _
  · rw [h]
    exact List.cons_ne_nil _ _

theorem isPlain_lowerRuns : ∀ r ∈ lowerRuns, r.isPlain = true :=
  List.all_eq_true.1 (by decide +kernel)

theorem isPlain_titleRuns : ∀ r ∈ titleRuns, r.isPlain = true :=
  List.all_eq_true.1 (by decide +kernel)

/-- No run of capitals leads to capitals. -/
theorem leadsPast_lowerRuns : ∀ r ∈ lowerRuns, ∀ s ∈ lowerRuns, r.leadsPast s = true := by
  have h : (lowerRuns.all fun r => lowerRuns.all r.leadsPast) = true := by decide +kernel
  exact fun r hr => List.all_eq_true.1 (List.all_eq_true.1 h r hr)

/-- The small form of a covered capital. -/
theorem lower_of_covers {r : CaseRun} (hr : r ∈ lowerRuns) {c : Char} (hn : r.Covers c.toNat) :
    lower c = [Char.ofNat (Int.toNat (c.toNat + r.shift))] := by
  have hascend : CaseRun.ascend 0 lowerRuns = true := by decide +kernel
  have hexception : ∀ e ∈ lowerMany, ∀ r ∈ lowerRuns, ¬(r.first ≤ e.1 ∧ e.1 ≤ r.last) := by
    decide +kernel
  have hnone : lowerMany.find? (·.1 == c.toNat) = none := by
    rw [List.find?_eq_none]
    intro e he hkey
    rw [beq_iff_eq] at hkey
    exact hexception e he r hr ⟨hkey ▸ hn.1, hkey ▸ hn.2.1⟩
  rw [lower, mapCase, hnone, CaseRun.lookup_of_covers hascend hr hn]
  rfl

/-- Whether the title-case form of a character gives itself when it is put into small letters and
its head capitalised again, the small letters not beginning with an `o`. -/
def settles (c : Char) : Bool :=
  match (title c).flatMap lower with
  | [] => false
  | d :: ds => d ≠ 'o' && title d ++ ds = title c

theorem exists_of_settles {c : Char} (h : settles c = true) :
    ∃ d ds, (title c).flatMap lower = d :: ds ∧ d ≠ 'o' ∧ title d ++ ds = title c := by
  rw [settles] at h
  split at h
  · exact absurd h Bool.false_ne_true
  · next d ds hsmall =>
    simp only [Bool.and_eq_true, decide_eq_true_eq] at h
    exact ⟨d, ds, hsmall, h.1, h.2⟩

/-- A run of small letters is moved back by a run of capitals, or its letters settle. -/
theorem leadsBack_titleRuns : ∀ r ∈ titleRuns, (∃ s ∈ lowerRuns, r.leadsBack s = true) ∨
    ∀ n, r.first ≤ n → n ≤ r.last → settles (Char.ofNat n) = true := by
  have h : (titleRuns.all fun r => lowerRuns.any r.leadsBack ||
      (List.range (r.last - r.first + 1)).all fun i => settles (Char.ofNat (r.first + i))) = true := by
    decide +kernel
  intro r hr
  rcases Bool.or_eq_true_iff.1 (List.all_eq_true.1 h r hr) with hback | hsettle
  · exact Or.inl (List.any_eq_true.1 hback)
  · refine Or.inr fun n hfirst hlast => ?_
    have hn := List.all_eq_true.1 hsettle (n - r.first) (List.mem_range.2 (by omega))
    rwa [Nat.add_sub_cancel' hfirst] at hn

theorem settles_titleMany : ∀ e ∈ titleMany, e.1 = 0x149 ∨ settles (Char.ofNat e.1) = true := by
  have h : (titleMany.all fun e => Nat.beq e.1 0x149 || settles (Char.ofNat e.1)) = true := by
    decide +kernel
  intro e he
  rcases Bool.or_eq_true_iff.1 (List.all_eq_true.1 h e he) with hn | hsettle
  · exact Or.inl (Nat.eq_of_beq_eq_true hn)
  · exact Or.inr hsettle

/-! ### Characters -/

/-- **A small letter is its own small form.** -/
theorem lower_of_mem_lower {c d : Char} (h : d ∈ lower c) : lower d = [d] := by
  rw [lower] at h
  rcases mapCase_cases lowerRuns lowerMany c with ⟨e, he, -, hmany⟩ | ⟨r, hr, hn, hrun⟩ | hself
  · have hsmall : ∀ e ∈ lowerMany, ∀ n ∈ e.2, lower (Char.ofNat n) = [Char.ofNat n] := by
      decide +kernel
    obtain ⟨n, hn, rfl⟩ := List.mem_map.1 (hmany ▸ h)
    exact hsmall e he n hn
  · obtain ⟨hmoved, hvalid, hspecial⟩ := CaseRun.isPlain_spec (isPlain_lowerRuns r hr) hn
    obtain rfl := List.mem_singleton.1 (hrun ▸ h)
    -- what a run leads to is neither the exception nor covered by a run, so nothing moves it again
    refine mapCase_eq_self ?_ ?_
    · rw [hvalid, lowerMany, List.forall_mem_singleton]
      intro hdot
      exact hspecial (0x130, 0x130) List.mem_cons_self ⟨Nat.le_of_eq hdot, Nat.le_of_eq hdot.symm⟩
    · intro s hs
      rw [hvalid, hmoved]
      exact CaseRun.not_covers_of_leadsPast (leadsPast_lowerRuns r hr s hs) hn
  · obtain rfl := List.mem_singleton.1 (hself ▸ h)
    exact hself

/-- A small letter comes back from its title-case form, or that form settles. -/
theorem title_cases {c : Char} (hsmall : lower c = [c]) (h : c ≠ 'ŉ') :
    (title c).flatMap lower = [c] ∨ settles c = true := by
  rcases mapCase_cases titleRuns titleMany c with ⟨e, he, hkey, -⟩ | ⟨r, hr, hn, hrun⟩ | hself
  · rcases settles_titleMany e he with hspecial | hsettle
    · refine absurd ?_ h
      rw [← Char.ofNat_toNat c, ← hkey, hspecial]
    · rw [hkey, Char.ofNat_toNat] at hsettle
      exact Or.inr hsettle
  · rcases leadsBack_titleRuns r hr with ⟨s, hs, hback⟩ | hsettle
    · obtain ⟨hmoved, hvalid, -⟩ := CaseRun.isPlain_spec (isPlain_titleRuns r hr) hn
      obtain ⟨hcovers, hreturn⟩ := CaseRun.covers_of_leadsBack hback hn
      -- the title-case form is a capital of the run `s`, whose small letter is `c`
      left
      rw [← hmoved, ← hvalid] at hcovers
      obtain ⟨hmoved', -, -⟩ := CaseRun.isPlain_spec (isPlain_lowerRuns s hs) hcovers
      rw [title, hrun, List.flatMap_singleton, lower_of_covers hs hcovers, hmoved', hvalid, hmoved,
        hreturn, Char.ofNat_toNat]
    · have hc := hsettle _ hn.1 hn.2.1
      rw [Char.ofNat_toNat] at hc
      exact Or.inr hc
  · left
    rw [title, hself, List.flatMap_singleton, hsmall]

/-- The blanks and the letter n behind an apostrophe: no case mapping leads to them from another
character. -/
def IsUnreached (c : Char) : Prop := isBlank c = true ∨ c = 'ŉ'

instance (c : Char) : Decidable (IsUnreached c) :=
  inferInstanceAs (Decidable (isBlank c = true ∨ c = 'ŉ'))

theorem IsUnreached.exists_special {c : Char} (h : IsUnreached c) :
    ∃ p ∈ CaseRun.special, p.1 ≤ c.toNat ∧ c.toNat ≤ p.2 := by
  rcases h with hblank | rfl
  · obtain ⟨p, hp, hends⟩ := Spans.exists_of_has hblank
    exact ⟨p, by simp [CaseRun.special, hp], hends⟩
  · exact ⟨(0x149, 0x149), by simp [CaseRun.special], by decide, by decide⟩

theorem eq_of_mem_mapCase {runs : List CaseRun} {many : List (Nat × List Nat)}
    (hruns : ∀ r ∈ runs, r.isPlain = true)
    (hmany : ∀ e ∈ many, ∀ n ∈ e.2, ¬IsUnreached (Char.ofNat n)) {c d : Char}
    (h : d ∈ mapCase runs many c) (hd : IsUnreached d) : d = c := by
  rcases mapCase_cases runs many c with ⟨e, he, -, hforms⟩ | ⟨r, hr, hn, hrun⟩ | hself
  · obtain ⟨n, hn, rfl⟩ := List.mem_map.1 (hforms ▸ h)
    exact absurd hd (hmany e he n hn)
  · obtain ⟨-, hvalid, hspecial⟩ := CaseRun.isPlain_spec (hruns r hr) hn
    obtain rfl := List.mem_singleton.1 (hrun ▸ h)
    obtain ⟨p, hp, hends⟩ := hd.exists_special
    rw [hvalid] at hends
    exact absurd hends (hspecial p hp)
  · exact List.mem_singleton.1 (hself ▸ h)

/-- **No blank comes from another character**, nor does the letter n behind an apostrophe. -/
theorem eq_of_mem_lower {c d : Char} (h : d ∈ lower c) (hd : IsUnreached d) : d = c :=
  eq_of_mem_mapCase isPlain_lowerRuns (by decide +kernel) h hd

theorem eq_of_mem_title {c d : Char} (h : d ∈ title c) (hd : IsUnreached d) : d = c :=
  eq_of_mem_mapCase isPlain_titleRuns (by decide +kernel) h hd

/-- A capital sigma stands at most at the head of a title-case form. -/
theorem sigma_notMem_tail_title (c : Char) : 'Σ' ∉ (title c).tail := by
  have hmany : ∀ e ∈ titleMany, 'Σ' ∉ (e.2.map Char.ofNat).tail := by decide +kernel
  rw [title]
  rcases mapCase_cases titleRuns titleMany c with ⟨e, he, -, hforms⟩ | ⟨r, hr, hn, hrun⟩ | hself
  · rw [hforms]
    exact hmany e he
  · rw [hrun]
    exact List.not_mem_nil
  · rw [hself]
    exact List.not_mem_nil

end Unicode

namespace Text

/-! ### Glyphs -/

theorem lowerGlyph_ne_nil (afterCased : Bool) (rest : Text) (g : Glyph) :
    lowerGlyph afterCased rest g ≠ [] := by
  cases g with
  | stray high => exact List.cons_ne_nil _ _
  | char c =>
    rw [lowerGlyph]
    split
    · exact List.cons_ne_nil _ _
    · exact fun h => Unicode.mapCase_ne_nil (by decide) c (List.map_eq_nil_iff.1 h)

theorem titleGlyph_ne_nil (g : Glyph) : titleGlyph g ≠ [] := by
  cases g with
  | stray high => exact List.cons_ne_nil _ _
  | char c => exact fun h => Unicode.mapCase_ne_nil (by decide) c (List.map_eq_nil_iff.1 h)

/-- The small form of a glyph, whatever stands beside it. -/
def lowerForm : Glyph → Text
  | .char c => (Unicode.lower c).map .char
  | .stray high => [.stray high]

theorem lowerGlyph_eq_lowerForm {g : Glyph} (h : g ≠ .char 'Σ') (afterCased : Bool) (rest : Text) :
    lowerGlyph afterCased rest g = lowerForm g := by
  cases g with
  | stray high => rfl
  | char c => rw [lowerGlyph, if_neg fun hc => h (congrArg Glyph.char hc), lowerForm]

/-- Only a capital sigma minds its neighbours. -/
theorem lowerFrom_eq_flatMap {t : Text} (h : Glyph.char 'Σ' ∉ t) (afterCased : Bool) :
    lowerFrom afterCased t = t.flatMap lowerForm := by
  induction t generalizing afterCased with
  | nil => rfl
  | cons g t ih =>
    rw [List.mem_cons, not_or] at h
    rw [lowerFrom, lowerGlyph_eq_lowerForm (Ne.symm h.1), ih h.2, List.flatMap_cons]

/-- At the head of a word a capital sigma takes its usual small form. -/
theorem lower_eq_flatMap {t : Text} (h : Glyph.char 'Σ' ∉ t.tail) : lower t = t.flatMap lowerForm := by
  cases t with
  | nil => rfl
  | cons g t =>
    have hhead : lowerGlyph false t g = lowerForm g := by
      by_cases hg : g = .char 'Σ'
      · have hsigma : Unicode.lower 'Σ' = ['σ'] := by decide +kernel
        rw [hg, lowerForm, hsigma]
        rfl
      · exact lowerGlyph_eq_lowerForm hg false t
    rw [lower, lowerFrom, hhead, lowerFrom_eq_flatMap (t := t) h, List.flatMap_cons]

/-- What stands in a text of small letters is its own small form. -/
theorem mem_lowerFrom {t : Text} {afterCased : Bool} {g : Glyph} (h : g ∈ lowerFrom afterCased t) :
    lowerForm g = [g] ∧ g ≠ .char 'Σ' := by
  induction t generalizing afterCased with
  | nil => exact absurd h List.not_mem_nil
  | cons x t ih =>
    rw [lowerFrom, List.mem_append] at h
    rcases h with h | h
    · cases x with
      | stray high =>
        obtain rfl := List.mem_singleton.1 h
        exact ⟨rfl, by simp⟩
      | char c =>
        rw [lowerGlyph] at h
        split at h
        · have hsmall : lowerForm (.char 'ς') = [.char 'ς'] ∧ lowerForm (.char 'σ') = [.char 'σ'] := by
            decide +kernel
          obtain rfl := List.mem_singleton.1 h
          split
          · exact ⟨hsmall.1, by decide⟩
          · exact ⟨hsmall.2, by decide⟩
        · obtain ⟨d, hd, rfl⟩ := List.mem_map.1 h
          have hself := Unicode.lower_of_mem_lower hd
          refine ⟨by rw [lowerForm, hself]; rfl, ?_⟩
          intro hsigma
          rw [Glyph.char.inj hsigma] at hself
          exact absurd hself (by decide +kernel)
    · exact ih h

theorem eq_of_mem_lowerGlyph {afterCased : Bool} {rest : Text} {g : Glyph} {d : Char}
    (h : .char d ∈ lowerGlyph afterCased rest g) (hd : Unicode.IsUnreached d) : g = .char d := by
  cases g with
  | stray high => exact absurd (List.mem_singleton.1 h) (by simp)
  | char c =>
    rw [lowerGlyph] at h
    split at h
    · have hsigma : ¬Unicode.IsUnreached 'ς' ∧ ¬Unicode.IsUnreached 'σ' := by decide +kernel
      rw [Glyph.char.inj (List.mem_singleton.1 h)] at hd
      split at hd
      · exact absurd hd hsigma.1
      · exact absurd hd hsigma.2
    · obtain ⟨e, he, hed⟩ := List.mem_map.1 h
      have hmem : d ∈ Unicode.lower c := Glyph.char.inj hed ▸ he
      rw [Unicode.eq_of_mem_lower hmem hd]

theorem eq_of_mem_titleGlyph {g : Glyph} {d : Char} (h : .char d ∈ titleGlyph g)
    (hd : Unicode.IsUnreached d) : g = .char d := by
  cases g with
  | stray high => exact absurd (List.mem_singleton.1 h) (by simp)
  | char c =>
    obtain ⟨e, he, hed⟩ := List.mem_map.1 h
    have hmem : d ∈ Unicode.title c := Glyph.char.inj hed ▸ he
    rw [Unicode.eq_of_mem_title hmem hd]

/-- The title-case form of a small letter leads back to it, or it settles. -/
theorem titleGlyph_cases {g : Glyph} (hsmall : lowerForm g = [g]) (h : g ≠ .char 'ŉ') :
    (titleGlyph g).flatMap lowerForm = [g] ∨
      ∃ d ds, (titleGlyph g).flatMap lowerForm = d :: ds ∧ d ≠ .char 'o' ∧
        titleGlyph d ++ ds = titleGlyph g := by
  cases g with
  | stray high => exact Or.inl rfl
  | char c =>
    have hforms : (titleGlyph (.char c)).flatMap lowerForm
        = ((Unicode.title c).flatMap Unicode.lower).map .char := by
      rw [titleGlyph, List.flatMap_map, List.map_flatMap]
      rfl
    have hc : Unicode.lower c = [c] :=
      (List.map_inj_right fun _ _ => Glyph.char.inj).1 (hsmall.trans (List.map_singleton).symm)
    rw [hforms]
    rcases Unicode.title_cases hc fun hn => h (congrArg Glyph.char hn) with hback | hsettle
    · exact Or.inl (congrArg (List.map Glyph.char) hback)
    · obtain ⟨d, ds, hd, ho, htitle⟩ := Unicode.exists_of_settles hsettle
      refine Or.inr ⟨.char d, ds.map .char, congrArg (List.map Glyph.char) hd, ?_, ?_⟩
      · exact fun h => ho (Glyph.char.inj h)
      · rw [titleGlyph, titleGlyph, ← htitle, List.map_append]

/-! ### Words -/

theorem mem_lower {w : Text} {g : Glyph} (h : g ∈ w.lower) : lowerForm g = [g] ∧ g ≠ .char 'Σ' :=
  mem_lowerFrom h

theorem capitalize_eq {w s : Text} {g : Glyph} (h : w.lower = g :: s) :
    w.capitalize = titleGlyph g ++ s := by
  rw [capitalize, h]

theorem lower_ne_nil {w : Text} (h : w ≠ []) : w.lower ≠ [] := by
  obtain ⟨g, t, rfl⟩ := List.exists_cons_of_ne_nil h
  rw [lower, lowerFrom]
  exact List.append_ne_nil_of_left_ne_nil (lowerGlyph_ne_nil false t g) _

theorem mem_of_mem_lowerFrom {t : Text} {afterCased : Bool} {d : Char}
    (h : .char d ∈ lowerFrom afterCased t) (hd : Unicode.IsUnreached d) : .char d ∈ t := by
  induction t generalizing afterCased with
  | nil => exact absurd h List.not_mem_nil
  | cons g t ih =>
    rw [lowerFrom, List.mem_append] at h
    rcases h with h | h
    · rw [eq_of_mem_lowerGlyph h hd]
      exact List.mem_cons_self
    · exact List.mem_cons_of_mem g (ih h)

theorem mem_of_mem_capitalize {w : Text} {d : Char} (h : .char d ∈ capitalize w)
    (hd : Unicode.IsUnreached d) : .char d ∈ w := by
  rw [capitalize] at h
  split at h
  · exact absurd h List.not_mem_nil
  · next g s hsmall =>
    have hlower : .char d ∈ lower w := by
      rw [hsmall, List.mem_cons]
      rcases List.mem_append.1 h with h | h
      · exact Or.inl (eq_of_mem_titleGlyph h hd).symm
      · exact Or.inr h
    exact mem_of_mem_lowerFrom hlower hd

/-- **A capitalised word is a word**: no blank has come into it. -/
theorem isSolid_capitalize {w : Text} (h : IsSolid w) : IsSolid w.capitalize := by
  constructor
  · obtain ⟨g, s, hsmall⟩ := List.exists_cons_of_ne_nil (lower_ne_nil h.1)
    rw [capitalize_eq hsmall]
    exact List.append_ne_nil_of_left_ne_nil (titleGlyph_ne_nil g) s
  · intro g hg
    cases g with
    | stray high => rfl
    | char c =>
      by_contra hblank
      rw [Bool.not_eq_false] at hblank
      have hmem := mem_of_mem_capitalize hg (Or.inl hblank)
      exact absurd (hblank.symm.trans (h.2 _ hmem)) (by decide)

theorem head?_lower_iff {w : Text} :
    w.lower.head? = some (.char 'ŉ') ↔ w.head? = some (.char 'ŉ') := by
  cases w with
  | nil => exact Iff.rfl
  | cons g t =>
    have hhead : (lower (g :: t)).head? = (lowerGlyph false t g).head? := by
      rw [lower, lowerFrom]
      exact List.head?_append_of_ne_nil _ (lowerGlyph_ne_nil false t g)
    rw [hhead, List.head?_cons, Option.some_inj]
    constructor
    · intro h
      exact eq_of_mem_lowerGlyph (List.mem_of_head? h) (Or.inr rfl)
    · rintro rfl
      have hself : Unicode.lower 'ŉ' = ['ŉ'] := by decide +kernel
      rw [lowerGlyph, if_neg (by decide), hself]
      rfl

/-- No capitalised word begins with the letter n behind an apostrophe. -/
theorem head?_capitalize_ne (w : Text) : w.capitalize.head? ≠ some (.char 'ŉ') := by
  rw [capitalize]
  split
  · simp
  · next g s hsmall =>
    rw [List.head?_append_of_ne_nil _ (titleGlyph_ne_nil g)]
    intro h
    have hmem := List.mem_of_head? h
    rw [eq_of_mem_titleGlyph hmem (Or.inr rfl)] at hmem
    exact absurd hmem (by decide +kernel)

/-- **What a capitalised word is in small letters.** -/
theorem lower_capitalize {w s : Text} {g : Glyph} (h : w.lower = g :: s) :
    w.capitalize.lower = (titleGlyph g).flatMap lowerForm ++ s := by
  have hsmall : ∀ x ∈ g :: s, lowerForm x = [x] ∧ x ≠ .char 'Σ' := fun x hx => mem_lower (h ▸ hx)
  have hrest : s.flatMap lowerForm = s := by
    rw [List.flatMap_congr fun x hx => (hsmall x (List.mem_cons_of_mem g hx)).1]
    exact List.flatMap_singleton' s
  -- a capital sigma may have come to the head, where its neighbours do not matter
  have hsigma : Glyph.char 'Σ' ∉ (titleGlyph g ++ s).tail := by
    rw [List.tail_append_of_ne_nil (titleGlyph_ne_nil g), List.mem_append]
    rintro (hmem | hmem)
    · cases g with
      | stray high => exact absurd hmem List.not_mem_nil
      | char c =>
        rw [titleGlyph, ← List.map_tail] at hmem
        obtain ⟨d, hd, hds⟩ := List.mem_map.1 hmem
        exact Unicode.sigma_notMem_tail_title c (Glyph.char.inj hds ▸ hd)
    · exact (hsmall _ (List.mem_cons_of_mem g hmem)).2 rfl
  rw [capitalize_eq h, lower_eq_flatMap hsigma, List.flatMap_append, hrest]

/-- A word that does not begin with the letter n behind an apostrophe has the small form of its
capitalised form, or that form settles. -/
theorem capitalize_cases {w : Text} (h : w.head? ≠ some (.char 'ŉ')) :
    w.capitalize.lower = w.lower ∨
      w.capitalize.lower.head? ≠ some (.char 'o') ∧ w.capitalize.capitalize = w.capitalize := by
  cases hsmall : w.lower with
  | nil =>
    left
    rw [show w.capitalize = [] by rw [capitalize, hsmall]]
    rfl
  | cons g s =>
    have hform := (mem_lower (hsmall ▸ List.mem_cons_self)).1
    have hg : g ≠ .char 'ŉ' := by
      rintro rfl
      exact h (head?_lower_iff.1 (by rw [hsmall]; rfl))
    rw [lower_capitalize hsmall]
    rcases titleGlyph_cases hform hg with hback | ⟨d, ds, hd, ho, htitle⟩
    · left
      rw [hback]
      rfl
    · right
      rw [hd]
      refine ⟨fun heq => ho (Option.some.inj heq), ?_⟩
      have hagain : w.capitalize.lower = d :: (ds ++ s) := by
        rw [lower_capitalize hsmall, hd, List.cons_append]
      rw [capitalize_eq hagain, capitalize_eq hsmall, ← htitle, List.append_assoc]

/-- The letter n behind an apostrophe becomes two characters, of which the second is a capital. -/
theorem capitalize_of_head? {w : Text} (h : w.head? = some (.char 'ŉ')) :
    ∃ s, w.capitalize = .char 'ʼ' :: .char 'N' :: s ∧
      w.capitalize.lower = .char 'ʼ' :: .char 'n' :: s := by
  obtain ⟨s, hsmall⟩ : ∃ s, w.lower = .char 'ŉ' :: s :=
    List.head?_eq_some_iff.1 (head?_lower_iff.2 h)
  have htitle : titleGlyph (.char 'ŉ') = [.char 'ʼ', .char 'N'] := by decide +kernel
  have hlower : (titleGlyph (.char 'ŉ')).flatMap lowerForm = [.char 'ʼ', .char 'n'] := by
    decide +kernel
  refine ⟨s, ?_, ?_⟩
  · rw [capitalize_eq hsmall, htitle]
    rfl
  · rw [lower_capitalize hsmall, hlower]
    rfl

/-- **Capitalising a word again** changes nothing, unless the word begins with the letter n behind
an apostrophe: the capital that this becomes does not stand at the head. -/
theorem capitalize_capitalize_iff {w : Text} :
    w.capitalize.capitalize = w.capitalize ↔ w.head? ≠ some (.char 'ŉ') := by
  constructor
  · intro h hhead
    obtain ⟨s, hcapital, hsmall⟩ := capitalize_of_head? hhead
    have htitle : titleGlyph (.char 'ʼ') = [.char 'ʼ'] := by decide +kernel
    rw [capitalize_eq hsmall, hcapital, htitle] at h
    simp at h
  · intro h
    rcases capitalize_cases h with hback | hsettle
    · rw [capitalize, hback, ← capitalize]
    · exact hsettle.2

end Text

end SourcePrologue

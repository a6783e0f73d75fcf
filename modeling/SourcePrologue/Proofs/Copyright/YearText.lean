import SourcePrologue.Proofs.Copyright.Lines

/-!
# Years read back

A sentence of a notice names years run by run, and the years can be read back from what it says.

* **`IsDivision`** — a **division** of years: closed intervals that hold the years in order, each
  beginning at least two years after the end of the one before;
* **`isDivision_runs`** — the runs of ascending years divide them, and **`runs_of_isDivision`**,
  nothing else does;
* **`YearRun.ofText_text`** — a written run is read back, whatever the signs of its ends;
* **`readYears_yearList`** — so are the years of a sentence;
* **`compress_lossless`** — all of this about ascending years, and so no two lists of ascending
  years are written in the same way.
-/

namespace SourcePrologue

/-! ### Numbers in a text -/

namespace Text

/-- The number that the digits at the start of a text go on with, and what follows them. -/
def readDigits (n : Nat) : Text → Nat × Text
  | .char c :: t =>
    if c.isDigit then readDigits (10 * n + (c.toNat - '0'.toNat)) t else (n, .char c :: t)
  | t => (n, t)

/-- The number at the start of a text, which a hyphen makes negative, and what follows it. -/
def readInt : Text → Int × Text
  | .char '-' :: t => (-((readDigits 0 t).1 : Int), (readDigits 0 t).2)
  | t => ((readDigits 0 t).1, (readDigits 0 t).2)

variable {rest : Text}

theorem readDigits_append {ds : List Char} (hds : ∀ c ∈ ds, c.isDigit = true)
    (hrest : ∀ c, rest.head? = some (.char c) → c.isDigit = false) (n : Nat) :
    readDigits n (ds.map .char ++ rest) = (Nat.ofDigitChars 10 ds n, rest) := by
  induction ds generalizing n with
  | nil =>
    cases rest with
    | nil => rfl
    | cons g t =>
      cases g with
      | stray high => rfl
      | char c =>
        show (if c.isDigit then _ else _) = _
        rw [hrest c rfl]
        rfl
  | cons c ds ih =>
    obtain ⟨hc, hothers⟩ := List.forall_mem_cons.1 hds
    rw [List.map_cons, List.cons_append, readDigits, if_pos hc, ih hothers, Nat.ofDigitChars_cons]

theorem readDigits_toDigits (hrest : ∀ c, rest.head? = some (.char c) → c.isDigit = false)
    (n : Nat) : readDigits 0 ((Nat.toDigits 10 n).map .char ++ rest) = (n, rest) := by
  have hdigits : ∀ c ∈ Nat.toDigits 10 n, c.isDigit = true := fun c hc =>
    Nat.isDigit_of_mem_toDigits (by decide) (by decide) hc
  rw [readDigits_append hdigits hrest, Nat.ofDigitChars_toDigits (by decide) (by decide)]

/-- **A written number is read back**, unless a digit follows it. -/
theorem readInt_ofInt (hrest : ∀ c, rest.head? = some (.char c) → c.isDigit = false) (n : Int) :
    readInt (ofInt n ++ rest) = (n, rest) := by
  cases n with
  | ofNat k =>
    have hread := readDigits_toDigits hrest k
    show readInt ((Nat.toDigits 10 k).map .char ++ rest) = _
    rw [readInt, hread]
    · rfl
    · -- a digit is no hyphen
      intro t ht
      have hpos := Nat.length_toDigits_pos (b := 10) (n := k)
      obtain ⟨c, cs, hcs⟩ := List.exists_cons_of_length_pos hpos
      have hc := Nat.isDigit_of_mem_toDigits (b := 10) (n := k) (c := c) (by decide) (by decide)
        (by rw [hcs]; exact List.mem_cons_self)
      rw [hcs] at ht
      rw [Glyph.char.inj (List.cons.inj ht).1] at hc
      exact absurd hc (by decide)
  | negSucc k =>
    have hread := readDigits_toDigits hrest (k + 1)
    show (-((readDigits 0 ((Nat.toDigits 10 (k + 1)).map .char ++ rest)).1 : Int),
      (readDigits 0 ((Nat.toDigits 10 (k + 1)).map .char ++ rest)).2) = _
    rw [hread]
    rfl

end Text

namespace Copyright

/-! ### The years of a run -/

/-- The years of a run, ascending. -/
def YearRun.years (r : YearRun) : List Int :=
  (List.range (r.last + 1 - r.first).toNat).map fun (k : Nat) => r.first + k

section

variable {first last : Int}

theorem YearRun.years_of_lt (h : last < first) : YearRun.years ⟨first, last⟩ = [] := by
  have hnone : (last + 1 - first).toNat = 0 := by omega
  simp only [YearRun.years, hnone, List.range_zero, List.map_nil]

theorem YearRun.years_cons (h : first ≤ last) :
    YearRun.years ⟨first, last⟩ = first :: YearRun.years ⟨first + 1, last⟩ := by
  have hlength : (last + 1 - first).toNat = (last + 1 - (first + 1)).toNat + 1 := by omega
  simp only [YearRun.years, hlength, List.range_succ_eq_map, List.map_cons, List.map_map]
  apply congrArg₂
  · omega
  · apply List.map_congr_left
    intro k _
    show first + ((k + 1 : Nat) : Int) = first + 1 + k
    omega

theorem YearRun.years_concat (h : first ≤ last + 1) :
    YearRun.years ⟨first, last + 1⟩ = YearRun.years ⟨first, last⟩ ++ [last + 1] := by
  have hlength : (last + 1 + 1 - first).toNat = (last + 1 - first).toNat + 1 := by omega
  have hnext : first + ((last + 1 - first).toNat : Int) = last + 1 := by omega
  simp only [YearRun.years, hlength, List.range_succ, List.map_append, List.map_singleton, hnext]

end

/-! ### Divisions -/

/-- A **division** of years: runs that hold a year each, begin at least two years after the end of
the run before, and hold the years in order when they are put one behind the other. -/
structure IsDivision (rs : List YearRun) (years : List Int) : Prop where
  inhabited : ∀ r ∈ rs, r.first ≤ r.last
  apart : rs.IsChain fun r s => r.last + 2 ≤ s.first
  years : rs.flatMap YearRun.years = years

section

variable {first last : Int} {years : List Int} {rs : List YearRun}

/-- Runs that go on from a run hold its years and then the later ones. -/
theorem flatMap_runsFrom (hbegun : first ≤ last) (hyears : (last :: years).Pairwise (· < ·)) :
    (runsFrom first last years).flatMap YearRun.years =
      YearRun.years ⟨first, last⟩ ++ years := by
  induction years generalizing first last with
  | nil => rw [runsFrom, List.flatMap_singleton, List.append_nil]
  | cons year years ih =>
    obtain ⟨hlater, hrest⟩ := List.pairwise_cons.1 hyears
    have hyear : last < year := hlater year List.mem_cons_self
    rw [runsFrom]
    split
    · have hsingle : YearRun.years ⟨year, year⟩ = [year] := by
        rw [YearRun.years_cons (Int.le_refl year), YearRun.years_of_lt (by omega)]
      rw [List.flatMap_cons, ih (Int.le_refl year) hrest, hsingle]
      rfl
    · next hadjacent =>
      have hnext : year = last + 1 := by omega
      subst hnext
      rw [ih (by omega) hrest, YearRun.years_concat (by omega), List.append_assoc]
      rfl

/-- Years in a row make the run that they go on from longer. -/
theorem runsFrom_years (first : Int) (n : Nat) (last : Int) (later : List Int) :
    runsFrom first last (YearRun.years ⟨last + 1, last + n⟩ ++ later) =
      runsFrom first (last + n) later := by
  induction n generalizing last with
  | zero =>
    rw [YearRun.years_of_lt (by omega), List.nil_append]
    congr 1
    omega
  | succ n ih =>
    have hstep := ih (last + 1)
    have hend : last + ((n + 1 : Nat) : Int) = last + 1 + n := by omega
    rw [hend, YearRun.years_cons (by omega), List.cons_append, runsFrom, if_neg (by omega)]
    exact hstep

/-- The years of a run make up that run, if they are read from its first year on. -/
theorem runsFrom_years_self (h : first ≤ last) (later : List Int) :
    runsFrom first first (YearRun.years ⟨first + 1, last⟩ ++ later) =
      runsFrom first last later := by
  obtain ⟨n, hn⟩ := Int.le.dest h
  have hgoes := runsFrom_years first n first later
  rwa [hn] at hgoes

/-- Runs that are apart are the runs of their years. -/
theorem runsFrom_flatMap (hinhabited : ∀ r ∈ rs, r.first ≤ r.last)
    (hapart : (⟨first, last⟩ :: rs : List YearRun).IsChain fun r s => r.last + 2 ≤ s.first) :
    runsFrom first last (rs.flatMap YearRun.years) = ⟨first, last⟩ :: rs := by
  induction rs generalizing first last with
  | nil => rfl
  | cons r rs ih =>
    obtain ⟨hgap, hrest⟩ := List.isChain_cons_cons.1 hapart
    obtain ⟨hbegun, hothers⟩ := List.forall_mem_cons.1 hinhabited
    have hgap : last + 2 ≤ r.first := hgap
    rw [List.flatMap_cons, YearRun.years_cons hbegun, List.cons_append, runsFrom,
      if_pos (by omega), runsFrom_years_self hbegun, ih hothers hrest]

/-- **The runs of ascending years divide them.** -/
theorem isDivision_runs (h : years.Pairwise (· < ·)) : IsDivision (runs years) years := by
  have hmaximal := isMaximal_runs h
  refine ⟨hmaximal.inhabited, ?_, ?_⟩
  · apply hmaximal.apart.isChain.imp
    intro r s hapart
    show r.last + 2 ≤ s.first
    omega
  · cases years with
    | nil => rfl
    | cons year years =>
      rw [runs, flatMap_runsFrom (Int.le_refl year) h, YearRun.years_cons (Int.le_refl year),
        YearRun.years_of_lt (by omega)]
      rfl

/-- **Nothing else divides them.** -/
theorem runs_of_isDivision (h : IsDivision rs years) : runs years = rs := by
  obtain ⟨hinhabited, hapart, rfl⟩ := h
  cases rs with
  | nil => rfl
  | cons r rs =>
    obtain ⟨hbegun, hothers⟩ := List.forall_mem_cons.1 hinhabited
    rw [List.flatMap_cons, YearRun.years_cons hbegun, List.cons_append, runs,
      runsFrom_years_self hbegun, runsFrom_flatMap hothers hapart]

end

/-! ### Reading runs -/

/-- The run that a text names: from one number to another one behind a hyphen, or a single year. -/
def YearRun.ofText (t : Text) : YearRun :=
  match (Text.readInt t).2 with
  | .char '-' :: rest => ⟨(Text.readInt t).1, (Text.readInt rest).1⟩
  | _ => ⟨(Text.readInt t).1, (Text.readInt t).1⟩

/-- The years that a text names, run by run with commas in between. -/
def readYears (t : Text) : List Int :=
  if t.isEmpty then []
  else (t.splitOn (· == .char ',')).flatMap fun piece => (YearRun.ofText piece).years

variable {years : List Int}

/-- **A written run is read back**, a single year as the run from it to it. -/
theorem YearRun.ofText_text {r : YearRun} (h : r.first ≤ r.last) : ofText r.text = r := by
  have hend : ∀ n : Int, Text.readInt (Text.ofInt n) = (n, []) := by
    intro n
    rw [← List.append_nil (Text.ofInt n)]
    apply Text.readInt_ofInt
    intro c hc
    exact absurd hc (by simp)
  by_cases hrun : r.first < r.last
  · have hread : Text.readInt r.text = (r.first, .char '-' :: Text.ofInt r.last) := by
      rw [text, if_pos hrun, List.append_assoc]
      apply Text.readInt_ofInt
      intro c hc
      rw [← Glyph.char.inj (Option.some.inj hc)]
      decide
    rw [ofText, hread]
    show (⟨r.first, (Text.readInt (Text.ofInt r.last)).1⟩ : YearRun) = r
    rw [hend]
  · have hsingle : r.first = r.last := by omega
    have hread : Text.readInt r.text = (r.first, []) := by
      rw [text, if_neg hrun, hend]
    rw [ofText, hread]
    show (⟨r.first, r.first⟩ : YearRun) = ⟨r.first, r.last⟩
    rw [hsingle]

theorem YearRun.comma_notMem_text (r : YearRun) : Glyph.char ',' ∉ r.text := by
  have hnumber : ∀ n : Int, Glyph.char ',' ∉ Text.ofInt n := by
    intro n hmem
    rcases mem_ofInt hmem with hhyphen | ⟨c, hdigit, hc⟩
    · exact absurd hhyphen (by decide)
    · rw [← Glyph.char.inj hc] at hdigit
      exact absurd hdigit (by decide)
  rw [text]
  split
  · rw [List.mem_append, List.mem_append, not_or, not_or]
    exact ⟨⟨hnumber r.first, by decide⟩, hnumber r.last⟩
  · exact hnumber r.first

/-- **The years of a sentence are read back.** -/
theorem readYears_yearList (h : years.Pairwise (· < ·)) : readYears (yearList years) = years := by
  by_cases hnone : years = []
  · rw [hnone]
    rfl
  · have hruns := isDivision_runs h
    have hcompress : compress years ≠ [] := by
      rw [compress, Ne, List.map_eq_nil_iff]
      exact runs_ne_nil hnone
    have hpieces : ∀ t ∈ compress years, Glyph.char ',' ∉ t := by
      intro t ht
      obtain ⟨r, -, rfl⟩ := List.mem_map.1 ht
      exact r.comma_notMem_text
    have hread : ∀ r ∈ runs years, (YearRun.ofText r.text).years = r.years := by
      intro r hr
      rw [YearRun.ofText_text (hruns.inhabited r hr)]
    have hsome : (yearList years).isEmpty = false := by
      simpa using (isSolid_yearList hnone).1
    rw [readYears, hsome, yearList, Text.splitOn_join hcompress hpieces, compress]
    show ((runs years).map YearRun.text).flatMap _ = years
    rw [List.flatMap_map, List.flatMap_congr hread]
    exact hruns.years

/-- **Writing years run by run loses nothing.** Ascending years have exactly one division, and what
is written are its runs in order. The years are read back from these runs with commas in between, so
that two lists of ascending years that are written in the same way are the same. Years before the
year 0 are no exception. -/
theorem compress_lossless (years : List Int) (h : years.Pairwise (· < ·)) :
    (∃ rs, IsDivision rs years ∧ compress years = rs.map YearRun.text ∧
      ∀ ss, IsDivision ss years → ss = rs) ∧
    readYears (Text.join (Text.ofChar ',') (compress years)) = years ∧
    ∀ others : List Int, others.Pairwise (· < ·) →
      Text.join (Text.ofChar ',') (compress others) = Text.join (Text.ofChar ',') (compress years) →
      others = years := by
  have hread : readYears (Text.join (Text.ofChar ',') (compress years)) = years :=
    readYears_yearList h
  refine ⟨⟨runs years, isDivision_runs h, rfl, ?_⟩, hread, ?_⟩
  · intro ss hss
    exact (runs_of_isDivision hss).symm
  · intro others hothers hsame
    calc others = readYears (yearList others) := (readYears_yearList hothers).symm
      _ = readYears (yearList years) := congrArg readYears hsame
      _ = years := hread

/-- A run over the year 0, a year by itself, and two years in a row. -/
theorem compress_lossless_ancient :
    ([-2, -1, 0, 1, 1990, 1993, 1994] : List Int).Pairwise (· < ·) ∧
    Text.join (Text.ofChar ',') (compress [-2, -1, 0, 1, 1990, 1993, 1994]) =
      Text.ofString "-2-1,1990,1993-1994" ∧
    readYears "-2-1,1990,1993-1994" = [-2, -1, 0, 1, 1990, 1993, 1994] ∧
    ∀ rs, IsDivision rs [-2, -1, 0, 1, 1990, 1993, 1994] →
      rs = [⟨-2, 1⟩, ⟨1990, 1990⟩, ⟨1993, 1994⟩] := by
  have hascending : ([-2, -1, 0, 1, 1990, 1993, 1994] : List Int).Pairwise (· < ·) := by decide
  obtain ⟨⟨rs, -, -, hunique⟩, hread, -⟩ := compress_lossless _ hascending
  have hwritten : Text.join (Text.ofChar ',') (compress [-2, -1, 0, 1, 1990, 1993, 1994]) =
      Text.ofString "-2-1,1990,1993-1994" := by decide
  have hruns : runs [-2, -1, 0, 1, 1990, 1993, 1994] =
      [⟨-2, 1⟩, ⟨1990, 1990⟩, ⟨1993, 1994⟩] := by decide
  refine ⟨hascending, hwritten, ?_, ?_⟩
  · rw [← hwritten]
    exact hread
  · intro ss hss
    rw [hunique ss hss, ← hunique _ (isDivision_runs hascending), hruns]

end Copyright

end SourcePrologue

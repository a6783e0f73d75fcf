import SourcePrologue.Proofs.Text.Ends
import SourcePrologue.Proofs.Text.Utf8
import SourcePrologue.Proofs.Text.Words
import SourcePrologue.Text.Lines

/-!
# Lines of decoded texts

A text is taken apart at its line feeds by `line_induction`: it is a line and a text behind it, or
the rest that no line feed ends.

* **`unlines_lines`** — the lines of a text make the text again, with a line feed at its end;
* **`Utf8.encode_unifyBreaks`** — line ends may as well be unified among the bytes;
* **`Utf8.isDecoded_unifyBreaks`**, **`Utf8.isDecoded_of_mem_lines`** — unifying line ends and taking
  lines apart leaves a decoded text decoded;
* **`Utf8.lines_recode`** — what is written line by line is read line by line.
-/

namespace SourcePrologue

namespace Text

/-! ### Taking lines apart -/

/-- What holds of texts without a line feed, and of a line and a text behind it if it holds of that
text, holds of every text. -/
theorem line_induction {P : Text → Prop} (rest : ∀ t, newline ∉ t → P t)
    (line : ∀ s t, newline ∉ s → P t → P (s ++ newline :: t)) : ∀ t : Text, P t := by
  intro t
  by_cases hmem : newline ∈ t
  · obtain ⟨s, u, ht, hs⟩ := List.eq_append_cons_of_mem hmem
    rw [ht]
    exact line s u hs (line_induction rest line u)
  · exact rest t hmem
termination_by t => t.length
decreasing_by
  rw [ht, List.length_append, List.length_cons]
  omega

theorem isNewline_of_notMem {t : Text} (h : newline ∉ t) : ∀ g ∈ t, (g == newline) = false := by
  intro g hg
  rw [beq_eq_false_iff_ne]
  rintro rfl
  exact h hg

theorem lines_of_notMem {t : Text} (h : newline ∉ t) : lines t = if t = [] then [] else [t] := by
  rw [lines, splitOn_eq_singleton (isNewline_of_notMem h)]
  simp

theorem lines_append_newline {s : Text} (h : newline ∉ s) (t : Text) :
    lines (s ++ newline :: t) = s :: lines t := by
  have hne := splitOn_ne_nil (· == newline) t
  rw [lines, lines, splitOn_append_cons (isNewline_of_notMem h) (beq_self_eq_true newline),
    List.getLast?_cons_of_ne_nil hne, List.dropLast_cons_of_ne_nil hne]
  split
  · rfl
  · rfl

theorem unlines_cons (line : Text) (ls : List Text) :
    unlines (line :: ls) = line ++ newline :: unlines ls := by
  simp [unlines]

/-- **The lines of a text make the text again**, with a line feed at its end if there is none. -/
theorem unlines_lines (t : Text) : unlines (lines t) =
    t ++ if t = [] ∨ t.getLast? = some newline then [] else [newline] := by
  induction t using line_induction with
  | rest t h =>
    rw [lines_of_notMem h]
    by_cases hnil : t = []
    · rw [if_pos hnil, if_pos (Or.inl hnil), hnil]
      rfl
    · have hlast : t.getLast? ≠ some newline := fun hlast => h (List.mem_of_getLast? hlast)
      rw [if_neg hnil, if_neg (by simp [hnil, hlast]), unlines_cons]
      rfl
  | line s t hs ih =>
    have hlast : (s ++ newline :: t = [] ∨ (s ++ newline :: t).getLast? = some newline) ↔
        (t = [] ∨ t.getLast? = some newline) := by
      cases t with
      | nil => simp
      | cons g t => simp
    rw [lines_append_newline hs, unlines_cons, ih, if_congr hlast rfl rfl, List.append_assoc,
      List.cons_append]

/-- A line holds no line feed and nothing that is not in the text. -/
theorem mem_of_mem_lines {t line : Text} (h : line ∈ lines t) :
    ∀ g ∈ line, g ≠ newline ∧ g ∈ t := by
  have hpiece : line ∈ splitOn (· == newline) t := by
    rw [lines] at h
    split at h
    · exact (List.dropLast_sublist _).subset h
    · exact h
  intro g hg
  obtain ⟨hne, hmem⟩ := mem_splitOn hpiece g hg
  exact ⟨by simpa using hne, hmem⟩

/-! ### Line ends -/

/-- A text **without line ends**, as every line is. -/
structure IsLine (t : Text) : Prop where
  newline : newline ∉ t
  carriageReturn : carriageReturn ∉ t

instance (t : Text) : Decidable t.IsLine :=
  decidable_of_iff (newline ∉ t ∧ carriageReturn ∉ t)
    ⟨fun h => ⟨h.1, h.2⟩, fun h => ⟨h.newline, h.carriageReturn⟩⟩

theorem isLine_iff {t : Text} : IsLine t ↔ ∀ g ∈ t, g ≠ newline ∧ g ≠ carriageReturn := by
  constructor
  · intro h g hg
    refine ⟨?_, ?_⟩
    · rintro rfl
      exact h.newline hg
    · rintro rfl
      exact h.carriageReturn hg
  · intro h
    exact ⟨fun hmem => (h _ hmem).1 rfl, fun hmem => (h _ hmem).2 rfl⟩

theorem IsLine.of_subset {s t : Text} (h : IsLine t) (hst : s ⊆ t) : IsLine s :=
  ⟨fun hmem => h.newline (hst hmem), fun hmem => h.carriageReturn (hst hmem)⟩

theorem isLine_nil : IsLine [] := ⟨by simp, by simp⟩

theorem IsLine.chomp {t : Text} (h : IsLine t) : t.chomp = t :=
  chomp_of_notMem h.newline h.carriageReturn

/-- The text of a string is a line if the characters of the string are none of the line ends. -/
theorem isLine_ofString {s : String} {cs : List Char} (hs : s = String.ofList cs)
    (h : cs.all (fun c => c != '\n' && c != '\r') = true) : IsLine (ofString s) := by
  rw [hs, ofString, String.toList_ofList, isLine_iff]
  intro g hg
  obtain ⟨c, hc, rfl⟩ := List.mem_map.1 hg
  have hcs := List.all_eq_true.1 h c hc
  rw [Bool.and_eq_true, bne_iff_ne, bne_iff_ne] at hcs
  exact ⟨fun hnewline => hcs.1 (Glyph.char.inj hnewline),
    fun hreturn => hcs.2 (Glyph.char.inj hreturn)⟩

theorem isLine_of_isSolid {w : Text} (h : IsSolid w) : IsLine w := by
  rw [isLine_iff]
  intro g hg
  have hsolid := h.2 g hg
  refine ⟨?_, ?_⟩
  · rintro rfl
    rw [isBlank_newline] at hsolid
    exact Bool.noConfusion hsolid
  · rintro rfl
    rw [isBlank_carriageReturn] at hsolid
    exact Bool.noConfusion hsolid

theorem unifyBreaks_cons {g : Glyph} (h : g ≠ carriageReturn) (t : Text) :
    unifyBreaks (g :: t) = g :: unifyBreaks t := by
  rw [unifyBreaks, if_neg h]

theorem unifyBreaks_append {s : Text} (h : carriageReturn ∉ s) (t : Text) :
    unifyBreaks (s ++ t) = s ++ unifyBreaks t := by
  induction s with
  | nil => rfl
  | cons g s ih =>
    rw [List.mem_cons, not_or] at h
    rw [List.cons_append, unifyBreaks_cons (Ne.symm h.1), ih h.2, List.cons_append]

theorem unifyBreaks_of_notMem {t : Text} (h : carriageReturn ∉ t) : unifyBreaks t = t := by
  have happend := unifyBreaks_append h []
  rwa [List.append_nil, unifyBreaks, List.append_nil] at happend

theorem unifyBreaks_eq_nil_iff {t : Text} : unifyBreaks t = [] ↔ t = [] := by
  induction t with
  | nil => simp [unifyBreaks]
  | cons g t ih =>
    rw [unifyBreaks]
    split
    · split
      · next hhead =>
        obtain ⟨u, rfl⟩ := List.head?_eq_some_iff.1 hhead
        simp [unifyBreaks_cons (show newline ≠ carriageReturn by decide)]
      · simp
    · simp

/-- A text ends in a line end if it does so behind unifying them. -/
theorem getLast?_unifyBreaks {t : Text} : (unifyBreaks t).getLast? = some newline ↔
    t.getLast? = some newline ∨ t.getLast? = some carriageReturn := by
  induction t with
  | nil => simp [unifyBreaks]
  | cons g t ih =>
    by_cases hnil : t = []
    · subst hnil
      by_cases hg : g = carriageReturn
      · simp [unifyBreaks, hg]
      · simp [unifyBreaks, hg]
    · have hne : unifyBreaks t ≠ [] := mt unifyBreaks_eq_nil_iff.1 hnil
      rw [List.getLast?_cons_of_ne_nil hnil, ← ih, unifyBreaks]
      split
      · split
        · rfl
        · rw [List.getLast?_cons_of_ne_nil hne]
      · rw [List.getLast?_cons_of_ne_nil hne]

theorem carriageReturn_notMem_unifyBreaks (t : Text) : carriageReturn ∉ unifyBreaks t := by
  have hne : carriageReturn ≠ newline := by decide
  induction t with
  | nil => simp [unifyBreaks]
  | cons g t ih =>
    rw [unifyBreaks]
    split
    · split
      · exact ih
      · simp [hne, ih]
    · next hg => simp [Ne.symm hg, ih]

end Text

namespace Utf8

open Text

/-! ### Line ends among bytes -/

/-- The byte of the line feed. -/
def lineFeed : UInt8 := 0x0A

/-- The byte of the carriage return. -/
def returnByte : UInt8 := 0x0D

/-- Bytes with every line end turned into a line feed. -/
def unifyBreaks : List UInt8 → List UInt8
  | [] => []
  | b :: bytes =>
    if b = returnByte then
      if bytes.head? = some lineFeed then unifyBreaks bytes else lineFeed :: unifyBreaks bytes
    else b :: unifyBreaks bytes

theorem unifyBreaks_append {u : List UInt8} (h : returnByte ∉ u) (v : List UInt8) :
    unifyBreaks (u ++ v) = u ++ unifyBreaks v := by
  induction u with
  | nil => rfl
  | cons b u ih =>
    rw [List.mem_cons, not_or] at h
    rw [List.cons_append, unifyBreaks, if_neg (Ne.symm h.1), ih h.2, List.cons_append]

/-- **Line ends may be unified among the bytes.** -/
theorem encode_unifyBreaks (t : Text) : encode (Text.unifyBreaks t) = unifyBreaks (encode t) := by
  induction t with
  | nil => rfl
  | cons g t ih =>
    by_cases hg : g = carriageReturn
    · have hbytes : encode (g :: t) = returnByte :: encode t := by rw [hg]; rfl
      rw [hbytes, Text.unifyBreaks, unifyBreaks, if_pos hg, if_pos rfl]
      have hfirst : (encode t).head? = some lineFeed ↔ t.head? = some newline :=
        head?_encode_ascii (c := '\n') (by decide)
      by_cases hhead : t.head? = some newline
      · rw [if_pos hhead, if_pos (hfirst.2 hhead), ih]
      · rw [if_neg hhead, if_neg (mt hfirst.1 hhead), encode_cons, ih]
        rfl
    · have hreturn : returnByte ∉ encodeGlyph g :=
        mt (mem_encodeGlyph_ascii (c := '\r') (by decide)).1 hg
      rw [unifyBreaks_cons hg, encode_cons, encode_cons, unifyBreaks_append hreturn, ih]

/-! ### Decoded texts -/

theorem isDecoded_append_newline {s t : Text} :
    IsDecoded (s ++ newline :: t) ↔ IsDecoded s ∧ IsDecoded t :=
  isDecoded_append_ascii (c := '\n') (by decide)

theorem isDecoded_append_carriageReturn {s t : Text} :
    IsDecoded (s ++ carriageReturn :: t) ↔ IsDecoded s ∧ IsDecoded t :=
  isDecoded_append_ascii (c := '\r') (by decide)

/-- **Unifying line ends leaves a decoded text decoded.** -/
theorem isDecoded_unifyBreaks {t : Text} (h : IsDecoded t) : IsDecoded (Text.unifyBreaks t) := by
  by_cases hmem : carriageReturn ∈ t
  · obtain ⟨s, u, ht, hs⟩ := List.eq_append_cons_of_mem hmem
    rw [ht, isDecoded_append_carriageReturn] at h
    obtain ⟨hs', hu⟩ := h
    have hunified := isDecoded_unifyBreaks hu
    rw [ht, Text.unifyBreaks_append hs, Text.unifyBreaks, if_pos rfl]
    split
    · next hhead =>
      obtain ⟨v, rfl⟩ := List.head?_eq_some_iff.1 hhead
      rw [unifyBreaks_cons (by decide)] at hunified ⊢
      exact isDecoded_append_newline.2 ⟨hs', hunified.tail⟩
    · exact isDecoded_append_newline.2 ⟨hs', hunified⟩
  · rwa [unifyBreaks_of_notMem hmem]
termination_by t.length
decreasing_by
  rw [ht, List.length_append, List.length_cons]
  omega

theorem isDecoded_of_mem_lines {t line : Text} (h : IsDecoded t) (hline : line ∈ lines t) :
    IsDecoded line := by
  induction t using line_induction with
  | rest t hnewline =>
    rw [lines_of_notMem hnewline] at hline
    split at hline
    · simp at hline
    · rwa [List.mem_singleton.1 hline]
  | line s t hs ih =>
    rw [isDecoded_append_newline] at h
    rw [lines_append_newline hs, List.mem_cons] at hline
    rcases hline with rfl | hline
    · exact h.1
    · exact ih h.2 hline

theorem recode_eq_nil_iff {t : Text} : recode t = [] ↔ t = [] := by
  constructor
  · intro h
    cases t with
    | nil => rfl
    | cons g t =>
      have hbytes := encode_decode (encode (g :: t))
      rw [recode] at h
      rw [h, encode_cons] at hbytes
      exact absurd (List.append_eq_nil_iff.1 hbytes.symm).1 (encodeGlyph_ne_nil g)
  · rintro rfl
    rfl

/-- Writing and reading makes no line ends. -/
theorem isLine_recode {t : Text} (h : IsLine t) : IsLine (recode t) :=
  ⟨mt (mem_recode_ascii (c := '\n') (by decide)).1 h.newline,
    mt (mem_recode_ascii (c := '\r') (by decide)).1 h.carriageReturn⟩

/-- **What is written line by line is read line by line.** -/
theorem lines_recode (t : Text) : lines (recode t) = (lines t).map recode := by
  have hnewline : ∀ {s : Text}, newline ∉ s → newline ∉ recode s := fun hs =>
    mt (mem_recode_ascii (c := '\n') (by decide)).1 hs
  induction t using line_induction with
  | rest t h =>
    rw [lines_of_notMem h, lines_of_notMem (hnewline h), if_congr recode_eq_nil_iff rfl rfl]
    split
    · rfl
    · rfl
  | line s t hs ih =>
    have happend : recode (s ++ newline :: t) = recode s ++ newline :: recode t :=
      recode_append_ascii (c := '\n') (by decide) s t
    rw [happend, lines_append_newline hs, lines_append_newline (hnewline hs), ih, List.map_cons]

end Utf8

end SourcePrologue

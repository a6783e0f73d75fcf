import SourcePrologue.Proofs.Source.Scan
import SourcePrologue.Proofs.Text.Lines

/-!
# Files as bytes

* **`Source.read_spec`** — the lines that reading gives: without line ends, and decoded;
* **`Source.read_write_unlines`** — what is written line by line is read back line by line, each
  line recoded;
* **`Source.write_unlines_read`** — writing the lines of a file gives its bytes with unified line
  ends, and with a line feed at their end;
* **`Source.write_render_split_read`** — so a file without prologues is left alone but for its line
  ends.
-/

namespace SourcePrologue.Source

open Utf8

/-! ### Reading what was written -/

/-- **The lines of a file** have no line ends and are decoded. -/
theorem read_spec {bytes : List UInt8} {line : Text} (h : line ∈ read bytes) :
    line.IsLine ∧ IsDecoded line := by
  have hglyphs := Text.mem_of_mem_lines h
  refine ⟨⟨fun hmem => (hglyphs _ hmem).1 rfl, fun hmem => ?_⟩, ?_⟩
  · exact Text.carriageReturn_notMem_unifyBreaks _ (hglyphs _ hmem).2
  · exact isDecoded_of_mem_lines (isDecoded_unifyBreaks (isDecoded_decode bytes)) h

/-- **Written lines are read back**, each line recoded. -/
theorem read_write_unlines {ls : List Text} (h : ∀ line ∈ ls, line.IsLine) :
    read (write (Text.unlines ls)) = ls.map recode := by
  have hreturn : Text.carriageReturn ∉ recode (Text.unlines ls) := by
    rw [Text.carriageReturn, mem_recode_ascii (by decide), Text.unlines, List.mem_flatMap]
    rintro ⟨line, hline, hmem⟩
    rcases List.mem_append.1 hmem with hmem | hmem
    · exact (h line hline).carriageReturn hmem
    · exact absurd hmem (by decide)
  show Text.lines (Text.unifyBreaks (recode (Text.unlines ls))) = _
  rw [Text.unifyBreaks_of_notMem hreturn, lines_recode,
    Text.lines_unlines fun line hline => (h line hline).newline]

theorem map_recode {ls : List Text} (h : ∀ line ∈ ls, IsDecoded line) : ls.map recode = ls :=
  (List.map_congr_left h).trans (List.map_id' ls)

/-! ### Files without prologues -/

theorem render_lines (ls : List Text) : render (ls.map .line) = Text.unlines ls := by
  rw [render, List.flatMap_map]
  rfl

theorem split_of_ordinary {ls : List Text} (hchomp : ∀ line ∈ ls, line.chomp = line)
    (h : ∀ line ∈ ls, Reader.open? line = none) : split ls = ls.map .line := by
  rw [split]
  induction ls with
  | nil => rfl
  | cons line ls ih =>
    have hline := hchomp line List.mem_cons_self
    rw [splitFrom_ordinary (by rw [hline]; exact h line List.mem_cons_self), hline,
      ih (fun l hl => hchomp l (List.mem_cons_of_mem line hl))
        (fun l hl => h l (List.mem_cons_of_mem line hl)), List.map_cons]

/-- What stands behind the bytes of a file that does not end in a line end. -/
def lastBreak (bytes : List UInt8) : List UInt8 :=
  if bytes = [] ∨ bytes.getLast? = some lineFeed ∨ bytes.getLast? = some returnByte then []
  else [lineFeed]

/-- **Writing the lines of a file** gives its bytes with unified line ends. -/
theorem write_unlines_read (bytes : List UInt8) :
    write (Text.unlines (read bytes)) = unifyBreaks bytes ++ lastBreak bytes := by
  have hnil : Text.unifyBreaks (decode bytes) = [] ↔ bytes = [] := by
    rw [Text.unifyBreaks_eq_nil_iff]
    constructor
    · intro h
      rw [← encode_decode bytes, h]
      rfl
    · rintro rfl
      rfl
  have hlast : (Text.unifyBreaks (decode bytes)).getLast? = some Text.newline ↔
      bytes.getLast? = some lineFeed ∨ bytes.getLast? = some returnByte := by
    rw [Text.getLast?_unifyBreaks, Text.newline, Text.carriageReturn,
      ← getLast?_encode_ascii (by decide), ← getLast?_encode_ascii (by decide), encode_decode]
    rfl
  rw [read, Text.unlines_lines, write, encode_append, encode_unifyBreaks, encode_decode,
    lastBreak, if_congr (or_congr hnil hlast) rfl rfl]
  split
  · rfl
  · rfl

/-- Whether a byte belongs to a line end. -/
def isBreak (b : UInt8) : Bool := b == lineFeed || b == returnByte

/-- Unifying line ends changes nothing but them. -/
theorem filter_unifyBreaks (bytes : List UInt8) :
    (unifyBreaks bytes).filter (!isBreak ·) = bytes.filter (!isBreak ·) := by
  induction bytes with
  | nil => rfl
  | cons b bytes ih =>
    rw [unifyBreaks]
    split
    · next hb =>
      have hgone : isBreak b = true ∧ isBreak lineFeed = true := by
        rw [hb]
        decide
      split
      · rw [List.filter_cons_of_neg (by rw [hgone.1]; decide), ih]
      · rw [List.filter_cons_of_neg (by rw [hgone.2]; decide),
          List.filter_cons_of_neg (by rw [hgone.1]; decide), ih]
    · rw [List.filter_cons, List.filter_cons, ih]

theorem unifyBreaks_of_notMem {bytes : List UInt8} (h : returnByte ∉ bytes) :
    unifyBreaks bytes = bytes := by
  have happend := unifyBreaks_append h []
  rwa [List.append_nil, unifyBreaks, List.append_nil] at happend

/-- **Files without prologues.** If no line of a file is a start line, the file is written as it is,
with every line end turned into a line feed and a line feed at its end; all other bytes stay as they
are, whether they are characters or not, and a file whose line ends are line feeds already stays the
same byte for byte. Lines that reading can give are read again after they have been written, the
empty ones at the end among them. -/
theorem write_render_split_read :
    (∀ bytes : List UInt8, (∀ line ∈ read bytes, Reader.open? line = none) →
      write (render (split (read bytes))) = unifyBreaks bytes ++ lastBreak bytes ∧
      (write (render (split (read bytes)))).filter (!isBreak ·) = bytes.filter (!isBreak ·) ∧
      (returnByte ∉ bytes → bytes = [] ∨ bytes.getLast? = some lineFeed →
        write (render (split (read bytes))) = bytes)) ∧
    ∀ ls : List Text, (∀ line ∈ ls, line.IsLine) →
      (∃ bytes, read bytes = ls) → read (write (render (ls.map .line))) = ls := by
  constructor
  · intro bytes hordinary
    have hwritten : write (render (split (read bytes))) = unifyBreaks bytes ++ lastBreak bytes := by
      rw [split_of_ordinary (fun line hline => (read_spec hline).1.chomp) hordinary, render_lines,
        write_unlines_read]
    refine ⟨hwritten, ?_, ?_⟩
    · have hbreak : (lastBreak bytes).filter (!isBreak ·) = [] := by
        rw [lastBreak]
        split
        · rfl
        · rfl
      rw [hwritten, List.filter_append, filter_unifyBreaks, hbreak, List.append_nil]
    · intro hreturn hlast
      have hbreak : lastBreak bytes = [] := by
        rcases hlast with hnil | hlast
        · exact if_pos (Or.inl hnil)
        · exact if_pos (Or.inr (Or.inl hlast))
      rw [hwritten, unifyBreaks_of_notMem hreturn, hbreak, List.append_nil]
  · rintro ls hlines ⟨bytes, rfl⟩
    rw [render_lines, read_write_unlines hlines, map_recode fun line hline => (read_spec hline).2]

/-- A file with a cut character, a form feed, line ends of all three kinds and an open last line. -/
theorem write_render_split_read_cut :
    write (render (split (read [0xE2, 0x82, 0x0D, 0x0A, 0x2A, 0x0C, 0x0D, 0x0D, 0x0A, 0xFF]))) =
        [0xE2, 0x82, 0x0A, 0x2A, 0x0C, 0x0A, 0x0A, 0xFF, 0x0A] ∧
      read (write (render ([[], ([.stray 98, .char 'a'] : Text), [], []].map .line))) =
        [[], ([.stray 98, .char 'a'] : Text), [], []] := by
  obtain ⟨hfiles, hlines⟩ := write_render_split_read
  constructor
  · rw [(hfiles _ (by decide +kernel)).1]
    decide +kernel
  · refine hlines _ (by decide +kernel) ⟨[0x0A, 0xE2, 0x61, 0x0A, 0x0A, 0x0A], ?_⟩
    decide +kernel

end SourcePrologue.Source

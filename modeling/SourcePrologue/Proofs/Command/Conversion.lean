import SourcePrologue.Command.Convert
import SourcePrologue.Proofs.Prologue.Edit
import SourcePrologue.Proofs.Source.Found
import SourcePrologue.Proofs.Source.RoundTrip

/-!
# Converting twice

**`Command.Convert.pass_pass`** — a file that has been converted is converted into itself. A first
pass may rename, merge, reorder and drop sections and fill in defaults, but everything it writes is
read back as it is and written again in the same way.

The parts that a file is converted into are `Settled`, from which the rest follows for any file of
settled parts.
-/

namespace SourcePrologue.Command.Convert

open Source

/-- The lines of a file after the command has been at it. -/
def pass (name : Text) (defaults : Bool) (ls : List Text) : List Text :=
  (render (convert name defaults (split ls))).lines

/-! ### Parts that have been converted -/

variable {name : Text} {defaults : Bool}

theorem convert_append (name : Text) (defaults : Bool) (ks ls : List Item) :
    convert name defaults (ks ++ ls) = convert name defaults ks ++ convert name defaults ls :=
  mapPrologues_append _ ks ls

/-- A part that has been converted can be converted again: a line that opens nothing, or a sound
prologue as it was modernised. -/
inductive Converted (name : Text) (defaults : Bool) : Item → Prop
  | line {text : Text} (h : Item.Settled (.line text)) : Converted name defaults (.line text)
  | prologue {p : Prologue} (h : p.Sound) :
    Converted name defaults (.prologue (p.modernise (some name) defaults))

theorem Converted.settled {item : Item} (h : Converted name defaults item) : item.Settled := by
  cases h with
  | line h => exact h
  | prologue h => exact (Prologue.sound_modernise h (some name) defaults).legible

/-- Everything that a file is converted into is converted. -/
theorem converted_convert {parts : List Item} (hsound : ∀ item ∈ parts, item.Sound)
    (hordinary : ∀ t, .line t ∈ parts → Reader.open? t = none) :
    ∀ item ∈ convert name defaults parts, Converted name defaults item := by
  intro item hitem
  obtain ⟨part, hpart, rfl⟩ := List.mem_map.1 hitem
  have hpart' := hsound part hpart
  cases part with
  | line t => exact Converted.line ⟨hpart'.1, hpart'.2, hordinary t hpart⟩
  | prologue p => exact Converted.prologue hpart'

/-- **A converted part is converted into itself**, once it has been read back. -/
theorem render_convert_again {item : Item} (h : Converted name defaults item) :
    render (convert name defaults item.again) = render [item] := by
  cases h with
  | line h => rfl
  | @prologue p h =>
    have hlegible := (Prologue.sound_modernise h (some name) defaults).legible
    have hecho := Prologue.echo_modernise h name defaults
    have hguess : ∀ q : Prologue, (q.modernise (some name) defaults).opensComment = q.opensComment ∧
        (q.modernise (some name) defaults).closesComment = q.closesComment := fun q =>
      Prologue.modernise_comment q (some name) defaults
    have hwritten := render_again (f := (·.modernise (some name) defaults)) hlegible hecho
      (by rw [(hguess _).1, Prologue.reread_eq]) (by rw [(hguess _).2, Prologue.reread_eq])
    exact hwritten.trans (List.append_nil _).symm

theorem render_convert_flatMap {parts : List Item}
    (h : ∀ item ∈ parts, Converted name defaults item) :
    render (convert name defaults (parts.flatMap Item.again)) = render parts := by
  induction parts with
  | nil => rfl
  | cons item parts ih =>
    have hrest := ih fun i hi => h i (List.mem_cons_of_mem item hi)
    rw [List.flatMap_cons, convert_append, render_append, hrest,
      render_convert_again (h item List.mem_cons_self), ← render_append]
    rfl

/-! ### Prologues of a converted file -/

theorem prologues_again (item : Item) :
    prologues item.again = (prologues [item]).map Prologue.reread := by
  cases item with
  | line text => rfl
  | prologue p =>
    rw [Item.again, prologues_append, prologues_comment]
    show p.reread :: prologues _ = _
    rw [prologues_comment]
    rfl

theorem prologues_flatMap_again (parts : List Item) :
    prologues (parts.flatMap Item.again) = (prologues parts).map Prologue.reread := by
  induction parts with
  | nil => rfl
  | cons item parts ih =>
    rw [List.flatMap_cons, prologues_append, prologues_again, ih, prologues_cons item parts,
      List.map_append]

theorem length_prologues_convert (parts : List Item) :
    (prologues (convert name defaults parts)).length = (prologues parts).length := by
  rw [convert, prologues_mapPrologues, List.length_map]

/-! ### Converting twice -/

/-- **Converting a file twice is converting it once.** The headings of the file have ASCII names,
and no ordinary line of it is a start line, as in any file whose prologues are modern. Then the
converted file has as many prologues as the file had, all of them modern, and converting it again
changes nothing. -/
theorem pass_pass (name : Text) (defaults : Bool) (ls : List Text)
    (hlines : ∀ line ∈ ls, Text.newline ∉ line) (hascii : Scanner.asciiHeadings {} ls = true)
    (hordinary : (∀ t ∈ ordinary (split ls), Reader.open? t = none) ∨
      ∀ p ∈ prologues (split ls), p.style = some .modern) :
    pass name defaults (pass name defaults ls) = pass name defaults ls ∧
    (∀ p ∈ prologues (split (pass name defaults ls)), p.style = some .modern) ∧
    (prologues (split (pass name defaults ls))).length = (prologues (split ls)).length := by
  have houtside : Scanner.Sound {} := fun r hr => by simp at hr
  have hsound := sound_splitFrom hlines houtside hascii
  have hclosed : ∀ t, .line t ∈ split ls → Reader.open? t = none := by
    rcases hordinary with hordinary | hmodern
    · exact fun t ht => hordinary t (mem_ordinary_iff.2 ht)
    · exact open?_of_all_modern Scanner.styled_outside fun p hp =>
        hmodern p (mem_prologues_iff.2 hp)
  have hconverted : ∀ item ∈ convert name defaults (split ls), Converted name defaults item :=
    converted_convert hsound hclosed
  have hagain : split (pass name defaults ls) =
      (convert name defaults (split ls)).flatMap Item.again :=
    split_render_settled fun item hitem => (hconverted item hitem).settled
  refine ⟨?_, ?_, ?_⟩
  · rw [pass, hagain, render_convert_flatMap hconverted]
    rfl
  · intro p hp
    rw [hagain, prologues_flatMap_again] at hp
    obtain ⟨q, -, rfl⟩ := List.mem_map.1 hp
    rw [Prologue.reread_eq]
  · rw [hagain, prologues_flatMap_again, List.length_map, length_prologues_convert]

/-- A legacy prologue with a changed name, a section under both spellings and no end, behind a modern
one that begins with a C comment. -/
theorem pass_pass_mixed : ∃ ls : List Text, (prologues (split ls)).length = 2 ∧
    pass "foo.f" true ls ≠ ls ∧
    pass "foo.f" true (pass "foo.f" true ls) = pass "foo.f" true ls := by
  let ls : List Text := ["/*+", "*  Name:", "*", "*     A", "*-", "      SUBROUTINE FOO",
    "*+  FOO - Does foo", "*    Method :", "*     Steps", "*    Authors :", "*     Me",
    "*    Author : You", "*    Algorithm :", "*     More steps", "      END", ""]
  have hlines : ∀ line ∈ ls, Text.newline ∉ line := by decide +kernel
  have hascii : Scanner.asciiHeadings {} ls = true := by decide +kernel
  have hall : ∀ t ∈ ordinary (split ls), (Reader.open? t).isNone = true := by decide +kernel
  have hordinary : ∀ t ∈ ordinary (split ls), Reader.open? t = none := fun t ht =>
    Option.isNone_iff_eq_none.1 (hall t ht)
  exact ⟨ls, by decide +kernel, by decide +kernel,
    (pass_pass "foo.f" true ls hlines hascii (Or.inl hordinary)).1⟩

end SourcePrologue.Command.Convert

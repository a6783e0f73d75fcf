import SourcePrologue.Proofs.Convention.Written
import SourcePrologue.Proofs.Prologue.Reread
import SourcePrologue.Source.Item

/-!
# Scanning written prologues

How the scanner takes lines apart, and what it makes of the lines of a written prologue:

* **`splitFrom_ordinary`**, **`splitFrom_start`** — a line outside all prologues;
* **`splitFrom_modern`**, **`splitFrom_closing`** — the lines of a modern prologue up to the end
  marker;
* **`splitFrom_writtenLines`** — a written prologue is one prologue, the one that is read back,
  between the lines of the C comment around it.
-/

namespace SourcePrologue

/-! ### Lines outside prologues -/

namespace Source

theorem splitFrom_cons (s : Scanner) (line : Text) (ls : List Text) :
    splitFrom s (line :: ls) = items (s.push line).2 ++ splitFrom (s.push line).1 ls := rfl

theorem splitFrom_ordinary {line : Text} (h : Reader.open? line.chomp = none) (ls : List Text) :
    splitFrom {} (line :: ls) = .line line.chomp :: splitFrom {} ls := by
  rw [splitFrom, Scanner.push]
  simp only [h]
  rfl

theorem splitFrom_start {line : Text} {r : Reader} (h : Reader.open? line.chomp = some r)
    (ls : List Text) : splitFrom {} (line :: ls) = splitFrom ⟨some r⟩ ls := by
  rw [splitFrom, Scanner.push]
  simp only [h]
  rfl

/-! ### Lines of modern prologues -/

variable {m : Marker}

theorem splitFrom_modern (d : Draft) {ks : List Text}
    (h : ∀ line ∈ ks, (Modern.classify m line.chomp).isClosing = false) (ls : List Text) :
    splitFrom ⟨some (.modern m d)⟩ (ks ++ ls) =
      splitFrom ⟨some (.modern m (Modern.read m d ks))⟩ ls := by
  induction ks generalizing d with
  | nil => rfl
  | cons line ks ih =>
    have hline := h line List.mem_cons_self
    have hrest : ∀ l ∈ ks, (Modern.classify m l.chomp).isClosing = false := fun l hl =>
      h l (List.mem_cons_of_mem line hl)
    rw [List.cons_append, splitFrom, Scanner.push, Modern.read_cons, ← ih _ hrest]
    simp only [Reader.push, hline]
    rfl

theorem splitFrom_closing (d : Draft) {line : Text} {comment : Bool}
    (h : Modern.classify m line.chomp = .closing comment) (ls : List Text) :
    splitFrom ⟨some (.modern m d)⟩ (line :: ls) =
      .prologue (Modern.step d (.closing comment)).prologue :: splitFrom {} ls := by
  rw [splitFrom, Scanner.push]
  simp only [Reader.push, h]
  rfl

/-! ### Written prologues -/

theorem open?_start (m : Marker) :
    Reader.open? (Text.chomp ([m.glyph] ++ Text.ofChar '+')) =
      some (.modern m (Modern.openDraft false m)) := by
  cases m <;> rfl

theorem open?_comment : Reader.open? (Text.chomp (Text.ofString "/*")) = none ∧
    Reader.open? (Text.chomp (Text.ofString "*/")) = none := by
  constructor <;> rfl

theorem splitFrom_markedLines {p : Prologue} (hp : p.Legible) (ls : List Text) :
    splitFrom {} (p.markedLines ++ ls) = .prologue p.reread :: splitFrom {} ls := by
  obtain ⟨m, hm⟩ := hp.marked
  have hlines : ∀ b ∈ p.blocks, ∀ line ∈ b.2, line.chomp = line := fun b hb line hline =>
    ((Prologue.blocks_spec hp hb).2.2 line hline).2
  have hclosing : ∀ line ∈ p.blocks.flatMap (fun b => p.writeSection b.1 b.2),
      (Modern.classify m line.chomp).isClosing = false := by
    intro line hline
    obtain ⟨b, hb, hline⟩ := List.mem_flatMap.1 hline
    exact Modern.isClosing_of_mem_writeSection hm (Prologue.blocks_spec hp hb).1 (hlines b hb)
      line hline
  have hread := Modern.read_blocks hm (fun b hb => (Prologue.blocks_spec hp hb).1) hlines
    (fun b hb => (Prologue.blocks_spec hp hb).2.1) (d := Modern.openDraft false m) rfl rfl
  have hend : Modern.classify m (Text.chomp ([m.glyph] ++ Text.ofChar '-')) = .closing false := by
    have hchomp : Text.chomp ([m.glyph] ++ Text.ofChar '-') = [m.glyph, .char '-'] := by
      cases m <;> rfl
    rw [hchomp, Modern.classify_closing]
  rw [Prologue.markedLines, hm, List.cons_append, List.cons_append, splitFrom_start (open?_start m),
    List.append_assoc, splitFrom_modern _ hclosing, hread, List.cons_append,
    splitFrom_closing _ hend, List.nil_append, Modern.step, Draft.settle_prologue,
    Prologue.reread, hm]
  rfl

/-- **A written prologue is found again**, between the lines of the C comment around it. -/
theorem splitFrom_writtenLines {p : Prologue} (hp : p.Legible) (ls : List Text) :
    splitFrom {} (p.writtenLines ++ ls) =
      (if p.opensComment then [.line (Text.ofString "/*")] else []) ++ .prologue p.reread ::
        (if p.closesComment then [.line (Text.ofString "*/")] else []) ++ splitFrom {} ls := by
  have hopens : ∀ ks, splitFrom {} ((if p.opensComment then [Text.ofString "/*"] else []) ++ ks) =
      (if p.opensComment then [Item.line (Text.ofString "/*")] else []) ++ splitFrom {} ks := by
    intro ks
    cases p.opensComment with
    | false => rfl
    | true => exact splitFrom_ordinary open?_comment.1 ks
  have hcloses : ∀ ks, splitFrom {} ((if p.closesComment then [Text.ofString "*/"] else []) ++ ks) =
      (if p.closesComment then [Item.line (Text.ofString "*/")] else []) ++ splitFrom {} ks := by
    intro ks
    cases p.closesComment with
    | false => rfl
    | true => exact splitFrom_ordinary open?_comment.2 ks
  rw [Prologue.writtenLines_eq, List.append_assoc, List.append_assoc, hopens,
    splitFrom_markedLines hp, hcloses]
  simp

end Source

end SourcePrologue

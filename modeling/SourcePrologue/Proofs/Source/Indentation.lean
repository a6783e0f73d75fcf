import SourcePrologue.Proofs.Source.LegacyDocumentation

/-!
# Legacy prologues that are indented

Indentation in front of a marker does not count in a modern prologue, and it does not count on a
start line of either convention. Behind the start line of a legacy prologue it does: only markers in
the first column are looked for, and an indented line is code. What comes of the lines of a legacy
prologue, with and without some blanks in front of each:

* **`Scanner.emissions`** — what comes of lines, one after another;
* **`Legacy.opening?_indented`** — indentation does not matter to a start line;
* **`Legacy.classify_indented`** — and makes code of any other line;
* **`Scanner.emissions_legacy`** — what comes of lines over which a legacy prologue goes on;
* **`Scanner.indented_legacy`** — so blanks in front of every line of a legacy prologue keep it from
  being completed, and all of it but the start line is handed back.
-/

namespace SourcePrologue

open Legacy

/-! ### Indented lines -/

namespace Legacy

variable {w line : Text} {o : Opening}

/-- The lines of a **marked** legacy prologue: a start line, lines that begin with its marker and do
not end the prologue, and an end marker. -/
structure IsMarked (o : Opening) (start : Text) (ls : List Text) (stop : Text) : Prop where
  start : opening? start.chomp = some o
  marked : ∀ line ∈ ls, line.chomp.head? = some o.marker.glyph
  inner : ∀ line ∈ ls, classify o.marker line.chomp ≠ .closing ∧
    classify o.marker line.chomp ≠ .declaration
  stop : classify o.marker stop.chomp = .closing

theorem chomp_ne_nil_of_opening? (h : opening? line.chomp = some o) : line.chomp ≠ [] := by
  intro hnil
  obtain ⟨g, rest, htrim, -⟩ := opening?_eq_some h
  rw [hnil] at htrim
  exact List.cons_ne_nil _ _ htrim.symm

/-- A start line may be indented. -/
theorem opening?_indented (hw : w.isBlank = true) (h : opening? line.chomp = some o) :
    opening? (w ++ line).chomp = some o := by
  rw [Text.chomp_append_of_ne_nil (chomp_ne_nil_of_opening? h), opening?,
    Text.trim_append_of_isBlank hw]
  exact h

/-- Other lines may not: **an indented line is code.** -/
theorem classify_indented (m : Marker) (hw : w.isBlank = true) (hne : w ≠ []) (t : Text) :
    classify m (w ++ t) = .code := by
  obtain ⟨g, rest, rfl⟩ := List.exists_cons_of_ne_nil hne
  refine classify_of_head fun hhead => ?_
  have hblank := Text.isBlank_iff.1 hw g List.mem_cons_self
  rw [List.cons_append, List.head?_cons, Option.some.injEq] at hhead
  rw [hhead, m.isBlank_glyph] at hblank
  exact Bool.noConfusion hblank

theorem chomp_ne_nil_of_head? {g : Glyph} (h : line.chomp.head? = some g) : line.chomp ≠ [] := by
  intro hnil
  rw [hnil] at h
  exact Option.some_ne_none _ h.symm

theorem IsMarked.chomp_ne_nil {start stop : Text} {ls : List Text} (h : IsMarked o start ls stop)
    (hline : line ∈ ls ++ [stop]) : line.chomp ≠ [] := by
  rcases List.mem_append.1 hline with hline | hline
  · exact chomp_ne_nil_of_head? (h.marked line hline)
  · rw [List.mem_singleton.1 hline]
    intro hnil
    have hstop := h.stop
    rw [hnil] at hstop
    exact Line.noConfusion hstop

/-- A prologue goes on over lines that do not end it, behind a heading or not. -/
theorem goesOn_of_forall {kinds : List Line} (h : ∀ kind ∈ kinds, ∀ seen, kind.isEnd seen = false)
    (seen : Bool) : goesOn seen kinds = true := by
  induction kinds generalizing seen with
  | nil => rfl
  | cons kind kinds ih =>
    rw [goesOn, h kind List.mem_cons_self, Bool.not_false, Bool.true_and]
    exact ih (fun k hk => h k (List.mem_cons_of_mem kind hk)) _

/-- Above the first heading a prologue goes on over code. -/
theorem goesOn_of_code {kinds : List Line} (h : ∀ kind ∈ kinds, kind = .code) :
    goesOn false kinds = true := by
  induction kinds with
  | nil => rfl
  | cons kind kinds ih =>
    rw [h kind List.mem_cons_self]
    exact ih fun k hk => h k (List.mem_cons_of_mem kind hk)

theorem foldl_step_code {kinds : List Line} (h : ∀ kind ∈ kinds, kind = .code) (d : Draft) :
    kinds.foldl step d = d := by
  induction kinds with
  | nil => rfl
  | cons kind kinds ih =>
    rw [List.foldl_cons, h kind List.mem_cons_self]
    exact ih fun k hk => h k (List.mem_cons_of_mem kind hk)

variable {start stop : Text} {ls : List Text}

/-- The lines between the start line and the end marker are no code and end nothing. -/
theorem IsMarked.kinds (h : IsMarked o start ls stop) : ∀ kind ∈ kinds o.marker ls,
    kind.isPassed = false ∧ ∀ seen, kind.isEnd seen = false := by
  intro kind hkind
  obtain ⟨line, hline, rfl⟩ := List.mem_map.1 hkind
  have hcode : classify o.marker line.chomp ≠ .code := fun hcode =>
    classify_eq_code_iff.1 hcode (h.marked line hline)
  obtain ⟨hclosing, hdeclaration⟩ := h.inner line hline
  cases hclass : classify o.marker line.chomp with
  | code => exact absurd hclass hcode
  | closing => exact absurd hclass hclosing
  | declaration => exact absurd hclass hdeclaration
  | endHistory => exact ⟨rfl, fun _ => rfl⟩
  | heading name trailing => exact ⟨rfl, fun _ => rfl⟩
  | content text => exact ⟨rfl, fun _ => rfl⟩

/-- Indented, all of the lines behind the start line are code. -/
theorem IsMarked.kinds_indented (h : IsMarked o start ls stop) (hw : w.isBlank = true)
    (hne : w ≠ []) :
    ∀ kind ∈ Legacy.kinds o.marker ((ls ++ [stop]).map (w ++ ·)), kind = .code := by
  intro kind hkind
  obtain ⟨indented, hindented, rfl⟩ := List.mem_map.1 hkind
  obtain ⟨line, hline, rfl⟩ := List.mem_map.1 hindented
  rw [Text.chomp_append_of_ne_nil (h.chomp_ne_nil hline)]
  exact classify_indented o.marker hw hne _

end Legacy

/-! ### What comes of lines -/

namespace Scanner

/-- What comes of lines that a scanner is given, one after another. -/
def emissions (s : Scanner) : List Text → List Emission
  | [] => []
  | line :: ls => (s.push line).2 :: emissions (s.push line).1 ls

/-- What there is to **read** in an emission: a line that is handed back, and the marker and the
sections of a prologue that is complete. -/
structure Reading where
  line : Option Text := none
  prologue : Option (Text × List (Text × List Text)) := none
  deriving DecidableEq

/-- The reading of an emission. -/
def reading (e : Emission) : Reading :=
  { line := e.line, prologue := e.prologue.map fun p => (p.commentChar, p.listing) }

theorem emissions_append (s : Scanner) (ks ls : List Text) :
    s.emissions (ks ++ ls) = s.emissions ks ++ (s.after ks).emissions ls := by
  induction ks generalizing s with
  | nil => rfl
  | cons line ks ih =>
    rw [List.cons_append, emissions, emissions, ih]
    rfl

/-- **What comes of lines over which a legacy prologue goes on**: code is handed back. -/
theorem emissions_legacy {m : Marker} {ls : List Text} {seen : Bool}
    (hopen : goesOn seen (kinds m ls) = true) (d : Draft) :
    emissions ⟨some (.legacy m seen d)⟩ ls = ls.map fun line =>
      { line := if (classify m line.chomp).isPassed then some line.chomp else none } := by
  induction ls generalizing seen d with
  | nil => rfl
  | cons line ls ih =>
    have hcons : kinds m (line :: ls) = classify m line.chomp :: kinds m ls := rfl
    rw [hcons, goesOn, Bool.and_eq_true, Bool.not_eq_true'] at hopen
    obtain ⟨hreader, hemission⟩ := push_of_open (d := d) hopen.1
    rw [emissions, push_of_inside rfl, hemission, hreader, List.map_cons]
    exact congrArg _ (ih hopen.2 _)

/-- The end marker of a legacy prologue. -/
theorem emissions_closing {m : Marker} {seen : Bool} {d : Draft} {stop : Text}
    (h : classify m stop.chomp = .closing) :
    emissions ⟨some (.legacy m seen d)⟩ [stop] = [{ prologue := some d.settle.prologue }] := by
  have hend : (classify m stop.chomp).isEnd seen = true := by
    rw [h]
    rfl
  rw [emissions, push_of_inside rfl, push_of_end hend, h]
  rfl

variable {w start stop : Text} {ls : List Text} {o : Opening}

/-- **A marked legacy prologue** is completed by its end marker; nothing of it is handed back. -/
theorem emissions_marked (h : IsMarked o start ls stop) : emissions {} (start :: ls ++ [stop]) =
    List.replicate (ls.length + 1) ({} : Emission) ++
      [{ prologue := some ((kinds o.marker ls).foldl step (openDraft o)).settle.prologue }] := by
  have hopen := goesOn_of_forall (fun kind hkind => (h.kinds kind hkind).2) false
  have hquiet : (ls.map fun line => ({ line :=
      if (classify o.marker line.chomp).isPassed then some line.chomp else none } : Emission)) =
      List.replicate ls.length {} := by
    refine List.eq_replicate_iff.2 ⟨List.length_map _, fun e he => ?_⟩
    obtain ⟨line, hline, rfl⟩ := List.mem_map.1 he
    rw [(h.kinds _ (List.mem_map.2 ⟨line, hline, rfl⟩)).1]
    rfl
  rw [List.cons_append, emissions, push_legacy_start rfl h.start, emissions_append,
    emissions_legacy hopen, after_legacy hopen, emissions_closing h.stop, hquiet,
    List.replicate_succ]
  rfl

/-- **Indented**, it is handed back line by line, and it is never completed. -/
theorem emissions_indented (h : IsMarked o start ls stop) (hw : w.isBlank = true) (hne : w ≠ []) :
    emissions {} ((start :: ls ++ [stop]).map (w ++ ·)) =
      {} :: (ls ++ [stop]).map fun line => { line := some (w ++ line.chomp) } := by
  have hcode := h.kinds_indented hw hne
  rw [List.cons_append, List.map_cons, emissions,
    push_legacy_start rfl (opening?_indented hw h.start),
    emissions_legacy (goesOn_of_code hcode), List.map_map]
  refine congrArg _ (List.map_congr_left fun line hline => ?_)
  have hclass := classify_indented o.marker hw hne line.chomp
  show ({ line := if (classify o.marker (w ++ line).chomp).isPassed then some (w ++ line).chomp
    else none } : Emission) = _
  rw [Text.chomp_append_of_ne_nil (h.chomp_ne_nil hline), hclass]
  rfl

theorem after_indented (h : IsMarked o start ls stop) (hw : w.isBlank = true) (hne : w ≠ []) :
    after {} ((start :: ls ++ [stop]).map (w ++ ·)) =
      ⟨some (.legacy o.marker false (openDraft o))⟩ := by
  have hcode := h.kinds_indented hw hne
  have hafter := after_legacy (goesOn_of_code hcode) (openDraft o)
  have hheading : (kinds o.marker ((ls ++ [stop]).map (w ++ ·))).any Line.isHeading = false := by
    rw [List.any_eq_false]
    intro kind hkind
    rw [hcode kind hkind]
    exact Bool.false_ne_true
  rw [foldl_step_code hcode, hheading] at hafter
  rw [List.cons_append, List.map_cons, after, List.foldl_cons,
    push_legacy_start rfl (opening?_indented hw h.start)]
  exact hafter

/-- **Indentation of a legacy prologue.** Let the lines of a marked legacy prologue be given to a
scanner. They complete a prologue of the passages in them with the end marker, and none is handed
back. Indenting the start line changes nothing. If every line is indented, all lines but the start
line are handed back, and the scanner is left inside a prologue of which it knows the name and the
purpose only. So what comes of the lines is the same with and without blanks in front of each only
if there are no blanks. -/
theorem indented_legacy (hw : w.isBlank = true) (h : IsMarked o start ls stop) :
    (∃ p, emissions {} (start :: ls ++ [stop]) =
        List.replicate (ls.length + 1) ({} : Emission) ++ [{ prologue := some p }] ∧
      p.commentChar = [o.marker.glyph] ∧
      ∀ key, p.sections.find key = o.documentation storedName (kinds o.marker ls) key) ∧
    emissions {} ((w ++ start) :: ls ++ [stop]) = emissions {} (start :: ls ++ [stop]) ∧
    (w ≠ [] → emissions {} ((start :: ls ++ [stop]).map (w ++ ·)) =
        {} :: (ls ++ [stop]).map (fun line => { line := some (w ++ line.chomp) }) ∧
      ∃ q, (after {} ((start :: ls ++ [stop]).map (w ++ ·))).flush = some q ∧
        q.commentChar = [o.marker.glyph] ∧
        ∀ key, q.sections.find key = if key = Text.ofString "Name" then [o.name]
          else if key = Text.ofString "Purpose" then [o.purpose] else []) ∧
    ((emissions {} ((start :: ls ++ [stop]).map (w ++ ·))).map reading =
      (emissions {} (start :: ls ++ [stop])).map reading ↔ w = []) := by
  have hmarker : ∀ kinds : List Legacy.Line,
      (kinds.foldl step (openDraft o)).settle.prologue.commentChar = [o.marker.glyph] := by
    intro kinds
    rw [Draft.settle_prologue, Prologue.appendAll_eq, prologue_foldl]
    rfl
  refine ⟨⟨_, emissions_marked h, hmarker _, ?_⟩, ?_, fun hne => ?_, ?_⟩
  · refine find_foldl h.start fun kind hkind => ?_
    obtain ⟨line, -, rfl⟩ := List.mem_map.1 hkind
    exact chomp_classify (Text.chomp_chomp line)
  · rw [List.cons_append, List.cons_append, emissions, emissions, push_legacy_start rfl h.start,
      push_legacy_start rfl (opening?_indented hw h.start)]
  · refine ⟨emissions_indented h hw hne, (openDraft o).settle.prologue, ?_, hmarker [],
      fun key => ?_⟩
    · rw [after_indented h hw hne]
      rfl
    · rw [← documentation_nil h.start key]
      have hnone : ∀ kind ∈ ([] : List Line),
          kind.Sound (fun _ => True) fun text => text.chomp = text := by simp
      exact find_foldl h.start hnone key
  · constructor
    · intro hsame
      by_contra hne
      rw [emissions_indented h hw hne, emissions_marked h] at hsame
      -- the last line is handed back in the one, and completes the prologue in the other
      have hlast := congrArg List.getLast? hsame
      simp only [List.map_append, List.map_cons, List.map_nil, ← List.cons_append,
        List.getLast?_concat, Option.some.injEq] at hlast
      exact Option.some_ne_none _ (congrArg Reading.line hlast)
    · rintro rfl
      simp

/-- Three blanks in front of a prologue with notes. -/
theorem indented_legacy_notes :
    IsMarked ⟨.star, "FOO", "Does foo"⟩ "*+  FOO - Does foo" ["*  Notes:", "*     n"] "*-" ∧
    emissions {} ["   *+  FOO - Does foo", "   *  Notes:", "   *     n", "   *-"] =
      [{}, { line := some "   *  Notes:" }, { line := some "   *     n" },
        { line := some "   *-" }] := by
  have hmarked :
      IsMarked ⟨.star, "FOO", "Does foo"⟩ "*+  FOO - Does foo" ["*  Notes:", "*     n"] "*-" :=
    ⟨by decide +kernel, by decide +kernel, by decide +kernel, by decide +kernel⟩
  obtain ⟨-, -, hindented, -⟩ := indented_legacy (w := "   ") (by decide) hmarked
  exact ⟨hmarked, (hindented (by decide)).1⟩

/-- One blank in front of every line takes the prologue apart. -/
theorem indented_lines_read_otherwise :
    (emissions {} ["*+  FOO - Does foo", "*  Notes:", "*     n", "*-"]).map reading =
      [{}, {}, {}, { prologue := some ("*", [("Name", ["FOO"]), ("Notes", ["n"]),
        ("Purpose", ["Does foo"])]) }] ∧
    (emissions {} [" *+  FOO - Does foo", " *  Notes:", " *     n", " *-"]).map reading =
      [{}, { line := some " *  Notes:" }, { line := some " *     n" }, { line := some " *-" }] := by
  decide +kernel

end Scanner

end SourcePrologue

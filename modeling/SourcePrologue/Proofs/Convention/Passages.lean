import SourcePrologue.Proofs.Convention.Reading

/-!
# The passages of a legacy prologue

The documentation in a legacy prologue comes in **passages**: the lines below one heading, the text
behind its colon first. The first passage continues the purpose that the start line gives.

* **`Legacy.passages`** — the passages, told from the kinds of lines alone;
* **`Legacy.blocks_foldl`** — what reading makes of them: blocks without blank edges, under the
  canonical forms of their names, and none that are blank;
* **`Legacy.documentation`** — the lines of a section: its passages, an empty line between each two;
* **`Legacy.find_foldl`** — what the prologue holds in the end;
* **`Legacy.documentation_title`**, **`Legacy.documentation_nil`** — the name and the purpose in a
  start line are among it, and they are all of it when no line follows;
* **`Legacy.documentation_of_canonical`** — a passage goes where its heading says, if the name in
  it, once made canonical, is left alone by making it canonical again.
-/

namespace SourcePrologue

open Body SectionName

/-! ### Joining blocks -/

namespace Body

/-- Blocks without their blank edges, an empty line between each two; blank blocks are left out. -/
def joined (blocks : List (List Text)) : List Text :=
  [[]].intercalate ((blocks.map trimBlankEdges).filter (!·.isEmpty))

theorem intercalate_append (ks ls : List Text) (blocks : List (List Text)) :
    [[]].intercalate ((ks ++ [] :: ls) :: blocks) = [[]].intercalate (ks :: ls :: blocks) := by
  cases blocks with
  | nil => simp [List.intercalate]
  | cons block blocks => simp [List.intercalate]

/-- **Adding blocks one after another joins them.** -/
theorem foldl_extend {blocks : List (List Text)} (hblocks : ∀ ls ∈ blocks, ls ≠ [])
    (held : List Text) :
    blocks.foldl extend held = [[]].intercalate ((held :: blocks).filter (!·.isEmpty)) := by
  induction blocks generalizing held with
  | nil =>
    by_cases hnil : held = []
    · rw [hnil]
      rfl
    · simp [hnil, List.intercalate]
  | cons ls blocks ih =>
    have hls := hblocks ls List.mem_cons_self
    rw [List.foldl_cons, ih fun l hl => hblocks l (List.mem_cons_of_mem ls hl)]
    by_cases hnil : held = []
    · simp [hnil, extend_nil]
    · simp [hnil, hls, extend_of_ne_nil, intercalate_append]

/-- Blocks of which one is not blank have lines. -/
theorem joined_ne_nil {blocks : List (List Text)} {ls : List Text} (hls : ls ∈ blocks)
    (hne : trimBlankEdges ls ≠ []) : joined blocks ≠ [] := by
  have hmem : trimBlankEdges ls ∈ (blocks.map trimBlankEdges).filter (!·.isEmpty) := by
    refine List.mem_filter.2 ⟨List.mem_map_of_mem hls, ?_⟩
    simpa using hne
  rw [joined]
  obtain ⟨first, rest, hcons⟩ := List.exists_cons_of_ne_nil (List.ne_nil_of_mem hmem)
  have hfirst : first ≠ [] := by
    have hin : first ∈ (blocks.map trimBlankEdges).filter (!·.isEmpty) := by
      rw [hcons]
      exact List.mem_cons_self
    simpa using (List.mem_filter.1 hin).2
  rw [hcons]
  cases rest with
  | nil => simpa [List.intercalate] using hfirst
  | cons second rest => simp [List.intercalate, hfirst]

end Body

namespace Legacy

/-! ### Passages -/

/-- Whether a line is a heading of documentation. -/
def Line.isHeading : Line → Bool
  | heading .. => true
  | _ => false

/-- The **passages** of lines with their names, the first of which has a given name and holds some
lines already. -/
def passages (name : Text) (held : List Text) : List Line → List (Text × List Text)
  | [] => [(name, held)]
  | .heading other trailing :: kinds =>
    (name, held) :: passages other (if trailing.isEmpty then [] else [trailing]) kinds
  | .content text :: kinds => passages name (held ++ [text]) kinds
  | _ :: kinds => passages name held kinds

/-- The passages of a prologue, those of its start line among them. -/
def Opening.passages (o : Opening) (kinds : List Line) : List (Text × List Text) :=
  ("Name", [o.name]) :: Legacy.passages "Purpose" [o.purpose] kinds

/-- The lines of the passages whose names stand for the section of a given key. -/
def Opening.documentation (o : Opening) (keyOf : Text → Text) (kinds : List Line) (key : Text) :
    List Text :=
  joined (((o.passages kinds).filter fun b => keyOf b.1 = key).map (·.2))

/-- The key of the section that a passage goes into. -/
def storedName (name : Text) : Text := SectionName.canonical (SectionName.canonical name)

/-- The sections that a start line begins go under their names. -/
theorem storedName_opening : storedName "Name" = Text.ofString "Name" ∧
    storedName "Purpose" = Text.ofString "Purpose" := by decide +kernel

/-- A passage as a block, under the canonical form of its name. -/
def block (b : Text × List Text) : Text × List Text :=
  (SectionName.canonical b.1, trimBlankEdges b.2)

variable {d : Draft} {name : Text}

theorem blocks_close (h : d.heading = some (SectionName.canonical name)) :
    d.close.blocks = d.blocks ++ [block (name, d.block)].filter (!·.2.isEmpty) := by
  rw [Draft.close, h]
  show (if (trimBlankEdges d.block).isEmpty then d.blocks
    else d.blocks ++ [(SectionName.canonical name, trimBlankEdges d.block)]) = _
  by_cases hempty : trimBlankEdges d.block = []
  · simp [block, hempty]
  · simp [block, hempty]

/-- What a heading does to a draft with an open block. -/
theorem step_heading (h : d.heading = some (SectionName.canonical name)) (other trailing : Text) :
    (step d (.heading other trailing)).heading = some (SectionName.canonical other) ∧
    (step d (.heading other trailing)).block = (if trailing.isEmpty then [] else [trailing]) ∧
    (step d (.heading other trailing)).blocks = d.close.blocks := by
  have hblock : d.close.block = [] := by rw [Draft.close, h]
  show (if trailing.isEmpty then d.start other else (d.start other).add trailing).heading = _ ∧
    (if trailing.isEmpty then d.start other else (d.start other).add trailing).block = _ ∧
    (if trailing.isEmpty then d.start other else (d.start other).add trailing).blocks = _
  split
  · exact ⟨rfl, hblock, rfl⟩
  · refine ⟨rfl, ?_, rfl⟩
    show d.close.block ++ [trailing] = _
    rw [hblock]
    rfl

/-- **Lines make blocks of their passages.** The open block is the passage begun. -/
theorem blocks_foldl (kinds : List Line) (h : d.heading = some (SectionName.canonical name)) :
    (kinds.foldl step d).close.blocks =
      d.blocks ++ ((passages name d.block kinds).map block).filter (!·.2.isEmpty) := by
  induction kinds generalizing d name with
  | nil => exact blocks_close h
  | cons kind kinds ih =>
    rw [List.foldl_cons]
    cases kind with
    | heading other trailing =>
      obtain ⟨hheading, hblock, hblocks⟩ := step_heading h other trailing
      rw [ih hheading, hblock, hblocks, blocks_close h, List.append_assoc, ← List.filter_append,
        ← List.map_singleton, ← List.map_append]
      rfl
    | content text =>
      have hopen : d.isOpen = true := by rw [Draft.isOpen, h]; rfl
      have hstep : step d (.content text) = d.add text := if_pos hopen
      rw [hstep, ih (d := d.add text) h]
      rfl
    | code => exact ih h
    | closing => exact ih h
    | endHistory => exact ih h
    | declaration => exact ih h

/-! ### Sections -/

theorem blocksUnder_block (key : Text) (bs : List (Text × List Text)) :
    blocksUnder key ((bs.map block).filter (!·.2.isEmpty)) =
      (((bs.filter fun b => storedName b.1 = key).map (·.2)).map trimBlankEdges).filter
        (!·.isEmpty) := by
  rw [blocksUnder, List.filter_filter, List.filter_map, List.map_map, List.map_map,
    List.filter_map, List.filter_filter]
  refine congrArg₂ _ rfl (List.filter_congr fun b _ => ?_)
  exact Bool.and_comm _ _

/-- Reading keeps line ends out of drafts. -/
theorem chomp_foldl {kinds : List Line}
    (hkinds : ∀ kind ∈ kinds, kind.Sound (fun _ => True) fun text => text.chomp = text)
    (hd : d.Sound (fun _ => True) fun text => text.chomp = text) :
    (kinds.foldl step d).Sound (fun _ => True) fun text => text.chomp = text := by
  induction kinds generalizing d with
  | nil => exact hd
  | cons kind kinds ih =>
    rw [List.foldl_cons]
    exact ih (fun k hk => hkinds k (List.mem_cons_of_mem kind hk))
      (sound_step hd (hkinds kind List.mem_cons_self))

theorem prologue_foldl (kinds : List Line) (d : Draft) :
    (kinds.foldl step d).prologue = d.prologue := by
  induction kinds generalizing d with
  | nil => rfl
  | cons kind kinds ih => rw [List.foldl_cons, ih, step_prologue]

theorem find_openDraft {line : Text} {o : Opening} (h : opening? line = some o) (key : Text) :
    (openDraft o).prologue.sections.find key =
      if key = Text.ofString "Name" then [o.name] else [] := by
  obtain ⟨hname, -⟩ := isStored_of_opening? h
  show ((Sections.empty).set (SectionName.canonical "Name") ([o.name].map Text.chomp)).find key = _
  rw [Sections.find_set, isSectionName_opening.1.label.canonical, List.map_singleton, hname.chomp]
  rfl

/-- **The sections of a legacy prologue** hold its passages. -/
theorem find_foldl {line : Text} {o : Opening} (h : opening? line = some o) {kinds : List Line}
    (hkinds : ∀ kind ∈ kinds, kind.Sound (fun _ => True) fun text => text.chomp = text)
    (key : Text) :
    (kinds.foldl step (openDraft o)).settle.prologue.sections.find key =
      o.documentation storedName kinds key := by
  have hsound := chomp_foldl hkinds
    (((sound_openDraft h).mono fun _ _ => trivial).mono_line fun _ hline => hline.chomp)
  have hunder : blocksUnder key (kinds.foldl step (openDraft o)).close.blocks =
      ((((passages "Purpose" [o.purpose] kinds).filter fun b => storedName b.1 = key).map
        (·.2)).map trimBlankEdges).filter (!·.isEmpty) := by
    have hopen : (openDraft o).heading = some (SectionName.canonical "Purpose") := rfl
    rw [blocks_foldl kinds hopen, ← blocksUnder_block]
    rfl
  have hne : ∀ ls ∈ blocksUnder key (kinds.foldl step (openDraft o)).close.blocks, ls ≠ [] := by
    intro ls hls
    rw [hunder] at hls
    simpa using (List.mem_filter.1 hls).2
  have hname : trimBlankEdges [o.name] = [o.name] := by
    exact trimBlankEdges_of_trimmed (trimmed_singleton (isStored_of_opening? h).2.2.1)
  have hseeded : (o.passages kinds).filter (fun b => storedName b.1 = key) =
      (if key = Text.ofString "Name" then [(Text.ofString "Name", [o.name])] else []) ++
        (passages "Purpose" [o.purpose] kinds).filter fun b => storedName b.1 = key := by
    rw [Opening.passages, List.filter_cons]
    simp only [storedName_opening.1, decide_eq_true_eq, eq_comm (a := key)]
    split
    · rfl
    · rfl
  rw [hsound.find_settle, foldl_extend hne, prologue_foldl, find_openDraft h, hunder,
    Opening.documentation, hseeded, joined]
  split
  · simp [hname]
  · simp

/-! ### The start line -/

/-- The first passage goes on with the lines that it holds already. -/
theorem exists_mem_passages (name : Text) (held : List Text) (kinds : List Line) :
    ∃ ls, (name, held ++ ls) ∈ passages name held kinds := by
  induction kinds generalizing held with
  | nil => exact ⟨[], by simp [passages]⟩
  | cons kind kinds ih =>
    cases kind with
    | heading other trailing => exact ⟨[], by simp [passages]⟩
    | content text =>
      obtain ⟨ls, hls⟩ := ih (held ++ [text])
      exact ⟨text :: ls, by simpa [passages] using hls⟩
    | code => exact ih held
    | closing => exact ih held
    | endHistory => exact ih held
    | declaration => exact ih held

/-- **A legacy prologue has a name and a purpose**, those of its start line at least. -/
theorem documentation_title {line : Text} {o : Opening} (h : opening? line = some o)
    (kinds : List Line) : o.documentation storedName kinds "Name" ≠ [] ∧
      o.documentation storedName kinds "Purpose" ≠ [] := by
  obtain ⟨-, -, hname, hpurpose⟩ := isStored_of_opening? h
  have hfilled : ∀ {key : Text} {ls : List Text} {text : Text}, (key, ls) ∈ o.passages kinds →
      storedName key = key → text ∈ ls → text.isBlank = false →
      o.documentation storedName kinds key ≠ [] := by
    intro key ls text hpassage hkey htext hblank
    have hmem : ls ∈ (((o.passages kinds).filter fun b => storedName b.1 = key).map (·.2)) :=
      List.mem_map.2 ⟨_, List.mem_filter.2 ⟨hpassage, by simpa using hkey⟩, rfl⟩
    exact joined_ne_nil hmem (trimBlankEdges_ne_nil_iff.2 ⟨text, htext, hblank⟩)
  obtain ⟨ls, hls⟩ := exists_mem_passages "Purpose" [o.purpose] kinds
  exact ⟨hfilled List.mem_cons_self storedName_opening.1 List.mem_cons_self hname,
    hfilled (List.mem_cons_of_mem _ hls) storedName_opening.2 (by simp) hpurpose⟩

/-- The documentation in a start line. -/
theorem documentation_nil {line : Text} {o : Opening} (h : opening? line = some o) (key : Text) :
    o.documentation storedName [] key = if key = Text.ofString "Name" then [o.name]
      else if key = Text.ofString "Purpose" then [o.purpose] else [] := by
  obtain ⟨-, -, hname, hpurpose⟩ := isStored_of_opening? h
  have hjoined : ∀ {line : Text}, line.isBlank = false → joined [[line]] = [line] := by
    intro line hblank
    simp [joined, trimBlankEdges_of_trimmed (trimmed_singleton hblank)]
  rw [Opening.documentation, Opening.passages, passages, List.filter_cons, List.filter_cons]
  simp only [storedName_opening.1, storedName_opening.2, decide_eq_true_eq, eq_comm (b := key)]
  have hdistinct : Text.ofString "Name" ≠ Text.ofString "Purpose" := by decide
  by_cases hfirst : key = Text.ofString "Name"
  · simp [hfirst, hdistinct, hjoined hname]
  · by_cases hsecond : key = Text.ofString "Purpose"
    · simp [hsecond, hdistinct.symm, hjoined hpurpose]
    · simp [hfirst, hsecond, joined]

/-! ### Names of headings -/

theorem name_of_mem_passages {name : Text} {held : List Text} {kinds : List Line}
    {b : Text × List Text} (h : b ∈ passages name held kinds) :
    b.1 = name ∨ ∃ trailing, .heading b.1 trailing ∈ kinds := by
  induction kinds generalizing name held with
  | nil => exact Or.inl (by rw [List.mem_singleton.1 h])
  | cons kind kinds ih =>
    have hrest : ∀ {other : Text} {held : List Text}, b ∈ passages other held kinds →
        b.1 = other ∨ ∃ trailing, .heading b.1 trailing ∈ kind :: kinds := fun hb =>
      (ih hb).imp id fun ⟨trailing, hmem⟩ => ⟨trailing, List.mem_cons_of_mem kind hmem⟩
    cases kind with
    | heading other trailing =>
      rcases List.mem_cons.1 h with rfl | h
      · exact Or.inl rfl
      · rcases hrest h with hname | hheading
        · exact Or.inr ⟨trailing, by rw [hname]; exact List.mem_cons_self⟩
        · exact Or.inr hheading
    | content text => exact hrest h
    | code => exact hrest h
    | closing => exact hrest h
    | endHistory => exact hrest h
    | declaration => exact hrest h

/-- Passages go where their headings say, if the names of these are canonical. -/
theorem documentation_of_canonical {o : Opening} {kinds : List Line}
    (h : ∀ name trailing, .heading name trailing ∈ kinds → SectionName.canonical name = name)
    (key : Text) : o.documentation storedName kinds key = o.documentation id kinds key := by
  have hstored : ∀ b ∈ o.passages kinds, storedName b.1 = b.1 := by
    intro b hb
    rcases List.mem_cons.1 hb with rfl | hb
    · exact storedName_opening.1
    · rcases name_of_mem_passages hb with hname | ⟨trailing, hheading⟩
      · rw [hname]
        exact storedName_opening.2
      · rw [storedName, h b.1 trailing hheading, h b.1 trailing hheading]
  rw [Opening.documentation, Opening.documentation]
  have hsame : (o.passages kinds).filter (fun b => storedName b.1 = key) =
      (o.passages kinds).filter fun b => id b.1 = key := by
    refine List.filter_congr fun b hb => ?_
    rw [hstored b hb]
    rfl
  rw [hsame]

/-- The canonical form of an ASCII name is canonical, and so are the names that have changed. -/
theorem canonical_of_heading {m : Marker} {line name trailing : Text}
    (hascii : ∀ raw, headingName? m line = some raw → raw.isAscii = true)
    (h : classify m line = .heading name trailing) : SectionName.canonical name = name := by
  rcases classify_cases m line with hkind | hkind | hkind | hkind |
    ⟨raw, trailing', tail, hraw, hname, hdeclaration, -, hkind⟩ | ⟨t, -, hkind⟩
  · exact Line.noConfusion (hkind.symm.trans h)
  · exact Line.noConfusion (hkind.symm.trans h)
  · exact Line.noConfusion (hkind.symm.trans h)
  · exact Line.noConfusion (hkind.symm.trans h)
  · have hlabel := isLabel_canonical hname (hascii raw hraw)
    rw [hkind, Line.heading.injEq] at h
    rw [← h.1]
    exact (isSectionName_of_lookup hlabel hdeclaration).label.canonical
  · exact Line.noConfusion (hkind.symm.trans h)

end Legacy

end SourcePrologue

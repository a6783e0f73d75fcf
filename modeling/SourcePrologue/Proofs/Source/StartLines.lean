import SourcePrologue.Proofs.Source.Refusals

/-!
# Start lines

The lines that open a prologue, told from their texts. A start line of the modern convention is one
of four texts between white space. A start line of the legacy convention is made of **parts**: a
marker and a plus sign, and then a name, a hyphen and a purpose with white space before each.

* **`Modern.isSome_opening?_iff`**, **`Legacy.opening?_eq_some_iff`** — what the two conventions
  accept;
* **`Legacy.Parts.eq_of_text_eq`** — a text has parts in one way only, whatever hyphens and spaces
  its name and purpose hold;
* **`Reader.style_unique`** — no line is accepted by both conventions, so that the order in which
  they are tried does not matter (**`Reader.findSome?_openAs?`**);
* **`Worker.opens_on_start_line`** — all of this, and what a worker makes of a line that it accepts.
-/

namespace SourcePrologue

open Body

namespace Text

/-! ### Gaps -/

/-- White space between words, at least one glyph of it. -/
structure IsGap (t : Text) : Prop where
  ne_nil : t ≠ []
  isBlank : t.isBlank = true

/-- A text that begins with a glyph other than white space. -/
def IsFlush (t : Text) : Prop := ∃ g rest, t = g :: rest ∧ g.isBlank = false

variable {s t : Text}

theorem IsFlush.ne_nil (h : IsFlush t) : t ≠ [] := by
  obtain ⟨g, rest, rfl, -⟩ := h
  exact List.cons_ne_nil g rest

theorem IsFlush.trimStart (h : IsFlush t) : t.trimStart = t := by
  obtain ⟨g, rest, rfl, hg⟩ := h
  exact trimStart_cons hg rest

theorem isFlush_of_isSolid (h : IsSolid s) (t : Text) : IsFlush (s ++ t) := by
  obtain ⟨g, rest, rfl⟩ := List.exists_cons_of_ne_nil h.1
  exact ⟨g, rest ++ t, rfl, h.2 g List.mem_cons_self⟩

theorem isFlush_of_trimStart (hne : t ≠ []) (h : t.trimStart = t) : IsFlush t := by
  obtain ⟨g, rest, rfl⟩ := List.exists_cons_of_ne_nil hne
  exact ⟨g, rest, rfl, isBlank_of_trimStart h⟩

/-- Where a run of glyphs with a property ends, if a glyph without it follows. -/
theorem span_append {p : Glyph → Bool} (hs : ∀ g ∈ s, p g = true)
    (ht : ∀ g, t.head? = some g → p g = false) :
    (s ++ t).takeWhile p = s ∧ (s ++ t).dropWhile p = t := by
  rw [List.takeWhile_append_of_pos hs, List.dropWhile_append_of_pos hs]
  cases t with
  | nil => exact ⟨List.append_nil s, rfl⟩
  | cons g t =>
    have hg := ht g rfl
    rw [List.takeWhile_cons_of_neg (by simp [hg]), List.dropWhile_cons_of_neg (by simp [hg])]
    exact ⟨List.append_nil s, rfl⟩

/-- So a text is cut in one way only into such a run and what follows it. -/
theorem append_inj_of_span {p : Glyph → Bool} {s' t' : Text} (hs : ∀ g ∈ s, p g = true)
    (hs' : ∀ g ∈ s', p g = true) (ht : ∀ g, t.head? = some g → p g = false)
    (ht' : ∀ g, t'.head? = some g → p g = false) (h : s ++ t = s' ++ t') : s = s' ∧ t = t' := by
  obtain ⟨htake, hdrop⟩ := span_append hs ht
  obtain ⟨htake', hdrop'⟩ := span_append hs' ht'
  constructor
  · rw [← htake, h, htake']
  · rw [← hdrop, h, hdrop']

theorem IsFlush.head?_isBlank (h : IsFlush t) : ∀ g, t.head? = some g → g.isBlank = false := by
  obtain ⟨x, rest, rfl, hx⟩ := h
  intro g hg
  rw [← Option.some.inj hg]
  exact hx

theorem IsGap.head?_not_isBlank (h : IsGap s) (t : Text) :
    ∀ g, (s ++ t).head? = some g → (!g.isBlank) = false := by
  obtain ⟨x, rest, rfl⟩ := List.exists_cons_of_ne_nil h.ne_nil
  intro g hg
  rw [← Option.some.inj hg, isBlank_iff.1 h.isBlank x List.mem_cons_self]
  rfl

theorem IsSolid.forall_not_isBlank (h : IsSolid s) : ∀ g ∈ s, (!g.isBlank) = true := by
  intro g hg
  rw [h.2 g hg]
  rfl

end Text

/-! ### The modern convention -/

theorem Marker.isSome_ofGlyph?_iff {g : Glyph} :
    (ofGlyph? g).isSome = true ↔ g = .char '*' ∨ g = .char '#' := by
  show (if g = Glyph.char '*' then some star else if g = Glyph.char '#' then some hash
    else none).isSome = true ↔ _
  split
  · next h => simp [h]
  · next hstar =>
    split
    · next h => simp [h]
    · next hhash => simp [hstar, hhash]

theorem Marker.ofGlyph?_glyph (m : Marker) : ofGlyph? m.glyph = some m := by
  cases m with
  | star => rfl
  | hash => rfl

theorem Marker.glyph_injective : Function.Injective Marker.glyph := by
  intro m n h
  rw [← Option.some.injEq, ← ofGlyph?_glyph m, h, ofGlyph?_glyph]

/-- **What the modern convention accepts.** -/
theorem Modern.isSome_opening?_iff {line : Text} : (opening? line).isSome = true ↔
    line.trim ∈ [Text.ofString "*+", Text.ofString "#+", Text.ofString "/*+",
      Text.ofString "/#+"] := by
  constructor
  · intro h
    rw [opening?] at h
    split at h
    · next g htrim =>
      rw [Option.isSome_map, Marker.isSome_ofGlyph?_iff] at h
      rw [htrim]
      rcases h with rfl | rfl <;> decide
    · next g htrim =>
      rw [Option.isSome_map, Marker.isSome_ofGlyph?_iff] at h
      rw [htrim]
      rcases h with rfl | rfl <;> decide
    · exact Bool.noConfusion h
  · intro h
    rw [opening?]
    simp only [List.mem_cons, List.not_mem_nil, or_false] at h
    rcases h with h | h | h | h <;> rw [h] <;> rfl

/-! ### The legacy convention -/

namespace Legacy

open Text

/-- The **parts** of a start line between white space. -/
structure Parts where
  marker : Marker
  gap : Text
  name : Text
  /-- The white space in front of the hyphen. -/
  before : Text
  /-- The white space behind the hyphen. -/
  behind : Text
  purpose : Text

namespace Parts

/-- The text behind the marker and the plus sign. -/
def title (p : Parts) : Text :=
  p.gap ++ (p.name ++ (p.before ++ .char '-' :: (p.behind ++ p.purpose)))

/-- The text that parts make up. -/
def text (p : Parts) : Text := p.marker.glyph :: .char '+' :: p.title

/-- What parts have to be: the name is one word, there is white space around it and around the
hyphen, and the purpose begins where that white space ends. -/
structure IsProper (p : Parts) : Prop where
  gap : IsGap p.gap
  name : IsSolid p.name
  before : IsGap p.before
  behind : IsGap p.behind
  purpose : IsFlush p.purpose

end Parts

/-- What stands behind white space. -/
theorem afterBlank?_eq_some_iff {t u : Text} : afterBlank? t = some u ↔
    u.trimStart = u ∧ ∃ gap, IsGap gap ∧ t = gap ++ u := by
  constructor
  · intro h
    cases t with
    | nil => exact absurd h (by simp [afterBlank?])
    | cons g t =>
      rw [afterBlank?] at h
      split at h
      · next hg =>
        have hu : t.dropWhile Glyph.isBlank = u := Option.some.inj h
        refine ⟨?_, g :: t.takeWhile Glyph.isBlank, ⟨List.cons_ne_nil _ _, ?_⟩, ?_⟩
        · rw [← hu]
          exact List.dropWhile_idempotent Glyph.isBlank t
        · apply isBlank_iff.2
          intro x hx
          rcases List.mem_cons.1 hx with rfl | hx
          · exact hg
          · exact List.mem_takeWhile_imp hx
        · rw [← hu, List.cons_append, List.takeWhile_append_dropWhile]
      · exact absurd h (by simp)
  · intro h
    obtain ⟨hu, gap, hgap, ht⟩ := h
    obtain ⟨g, rest, rfl⟩ := List.exists_cons_of_ne_nil hgap.ne_nil
    have hblank := isBlank_iff.1 hgap.isBlank
    have hrest : Text.trimStart (rest ++ u) = u.trimStart :=
      List.dropWhile_append_of_pos fun x hx => hblank x (List.mem_cons_of_mem g hx)
    rw [ht, List.cons_append, afterBlank?, if_pos (hblank g List.mem_cons_self), hrest, hu]

/-- A title that is found has parts. -/
theorem exists_parts_of_titleOf? {t name purpose : Text} (h : titleOf? t = some (name, purpose))
    (m : Marker) : ∃ p : Parts, p.IsProper ∧ p.marker = m ∧ p.name = name ∧
      p.purpose = purpose ∧ t = p.title := by
  have hsolid := (titleOf?_eq_some h).1
  have hblank := (titleOf?_eq_some h).2.2.1
  rw [titleOf?] at h
  obtain ⟨u, hu, h⟩ := Option.bind_eq_some_iff.1 h
  obtain ⟨v, hv, h⟩ := Option.bind_eq_some_iff.1 h
  obtain ⟨w, hw, h⟩ := Option.bind_eq_some_iff.1 h
  obtain ⟨found, hfound, h⟩ := Option.bind_eq_some_iff.1 h
  split at h
  · exact absurd h (by simp)
  · rw [Option.some.injEq, Prod.mk.injEq] at h
    obtain ⟨hname, hpurpose⟩ := h
    rw [hpurpose] at hfound
    obtain ⟨-, gap, hgap, ht⟩ := afterBlank?_eq_some_iff.1 hu
    obtain ⟨-, before, hbefore, hrest⟩ := afterBlank?_eq_some_iff.1 hv
    obtain ⟨htrimmed, behind, hbehind, hw'⟩ := afterBlank?_eq_some_iff.1 hfound
    rw [Text.after?, List.isPrefixOf?_eq_some_iff_append_eq] at hw
    have hflush := isFlush_of_trimStart (Text.ne_nil_of_isBlank_eq_false hblank) htrimmed
    refine ⟨⟨m, gap, name, before, behind, purpose⟩,
      ⟨hgap, hsolid, hbefore, hbehind, hflush⟩, rfl, rfl, rfl, ?_⟩
    calc t = gap ++ (u.takeWhile (!·.isBlank) ++ u.dropWhile (!·.isBlank)) := by
          rw [ht, List.takeWhile_append_dropWhile]
      _ = gap ++ (name ++ (before ++ (Text.ofChar '-' ++ (behind ++ purpose)))) := by
          rw [hname, hrest, ← hw, hw']

/-- Parts are found again. -/
theorem titleOf?_title {p : Parts} (hp : p.IsProper) (hnewline : Text.newline ∉ p.purpose) :
    titleOf? p.title = some (p.name, p.purpose) := by
  have hhyphen : IsFlush (.char '-' :: (p.behind ++ p.purpose)) := ⟨_, _, rfl, by decide⟩
  obtain ⟨hname, hrest⟩ := span_append hp.name.forall_not_isBlank
    (hp.before.head?_not_isBlank (.char '-' :: (p.behind ++ p.purpose)))
  have hword : afterBlank? p.title =
      some (p.name ++ (p.before ++ .char '-' :: (p.behind ++ p.purpose))) :=
    afterBlank?_eq_some_iff.2 ⟨(isFlush_of_isSolid hp.name _).trimStart, p.gap, hp.gap, rfl⟩
  have hsecond : afterBlank? (p.before ++ .char '-' :: (p.behind ++ p.purpose)) =
      some (.char '-' :: (p.behind ++ p.purpose)) :=
    afterBlank?_eq_some_iff.2 ⟨hhyphen.trimStart, p.before, hp.before, rfl⟩
  have hpurpose : afterBlank? (p.behind ++ p.purpose) = some p.purpose :=
    afterBlank?_eq_some_iff.2 ⟨hp.purpose.trimStart, p.behind, hp.behind, rfl⟩
  have hfilled : ¬ (p.name.isEmpty || p.purpose.isEmpty ||
      p.purpose.contains Text.newline) = true := by
    simp [hp.name.1, hp.purpose.ne_nil, hnewline]
  have hafter : Text.after? (Text.ofChar '-') (.char '-' :: (p.behind ++ p.purpose)) =
      some (p.behind ++ p.purpose) := by
    rw [Text.after?, List.isPrefixOf?_eq_some_iff_append_eq]
    rfl
  rw [titleOf?]
  refine Option.bind_eq_some_iff.2 ⟨_, hword, Option.bind_eq_some_iff.2 ⟨_, ?_,
    Option.bind_eq_some_iff.2 ⟨_, hafter, Option.bind_eq_some_iff.2 ⟨_, hpurpose, ?_⟩⟩⟩⟩
  · rw [hrest]
    exact hsecond
  · rw [hname, if_neg hfilled]

namespace Parts

/-- What parts open. -/
def opening (p : Parts) : Opening := ⟨p.marker, p.name, p.purpose⟩

theorem newline_notMem_purpose {p : Parts} {line : Text} (hnewline : Text.newline ∉ line)
    (h : line.trim = p.text) : Text.newline ∉ p.purpose := by
  intro hmem
  have htrim : Text.newline ∈ line.trim := by
    rw [h, text, title]
    simp only [List.mem_cons, List.mem_append]
    simp [hmem]
  exact hnewline ((Text.trimStart_suffix line).subset
    ((Text.dropEnd_prefix_self _ _).subset htrim))

variable {p q : Parts}

/-- **A text has parts in one way only.** -/
theorem eq_of_text_eq (hp : p.IsProper) (hq : q.IsProper) (h : p.text = q.text) : p = q := by
  have hhyphen : ∀ t : Text, ∀ g, (.char '-' :: t : Text).head? = some g → g.isBlank = false := by
    intro t
    exact IsFlush.head?_isBlank ⟨_, _, rfl, by decide⟩
  obtain ⟨hmarker, h⟩ := List.cons.inj h
  have htitle := (List.cons.inj h).2
  obtain ⟨hgap, htitle⟩ := append_inj_of_span (isBlank_iff.1 hp.gap.isBlank)
    (isBlank_iff.1 hq.gap.isBlank) (isFlush_of_isSolid hp.name _).head?_isBlank
    (isFlush_of_isSolid hq.name _).head?_isBlank htitle
  obtain ⟨hname, htitle⟩ := append_inj_of_span hp.name.forall_not_isBlank
    hq.name.forall_not_isBlank (hp.before.head?_not_isBlank _) (hq.before.head?_not_isBlank _)
    htitle
  obtain ⟨hbefore, htitle⟩ := append_inj_of_span (isBlank_iff.1 hp.before.isBlank)
    (isBlank_iff.1 hq.before.isBlank) (hhyphen _) (hhyphen _) htitle
  obtain ⟨hbehind, hpurpose⟩ := append_inj_of_span (isBlank_iff.1 hp.behind.isBlank)
    (isBlank_iff.1 hq.behind.isBlank) hp.purpose.head?_isBlank hq.purpose.head?_isBlank
    (List.cons.inj htitle).2
  obtain ⟨marker, gap, name, before, behind, purpose⟩ := p
  obtain ⟨marker', gap', name', before', behind', purpose'⟩ := q
  rw [Parts.mk.injEq]
  exact ⟨Marker.glyph_injective hmarker, hgap, hname, hbefore, hbehind, hpurpose⟩

end Parts

/-- **What the legacy convention accepts**, and what it makes of it. -/
theorem opening?_eq_some_iff {line : Text} {o : Opening} (hnewline : Text.newline ∉ line) :
    opening? line = some o ↔ ∃ p : Parts, p.IsProper ∧ line.trim = p.text ∧ p.opening = o := by
  constructor
  · intro h
    obtain ⟨g, rest, htrim, hg, htitle⟩ := opening?_eq_some h
    obtain ⟨p, hp, hmarker, hname, hpurpose, hrest⟩ := exists_parts_of_titleOf? htitle o.marker
    refine ⟨p, hp, ?_, ?_⟩
    · rw [htrim, hg, hrest, ← hmarker]
      rfl
    · rw [Parts.opening, hmarker, hname, hpurpose]
  · intro h
    obtain ⟨p, hp, htrim, ho⟩ := h
    have hmarker := Marker.ofGlyph?_glyph p.marker
    have htitle := titleOf?_title hp (Parts.newline_notMem_purpose hnewline htrim)
    rw [opening?, htrim]
    refine Option.bind_eq_some_iff.2 ⟨_, hmarker, Option.bind_eq_some_iff.2 ⟨_, htitle, ?_⟩⟩
    rw [← ho]
    rfl

end Legacy

/-! ### Both conventions -/

namespace Reader

variable {line : Text}

/-- A line that opens a prologue in a convention opens that prologue first. -/
theorem open?_of_openAs? {style : Style} {r : Reader} (h : openAs? style line = some r) :
    open? line = some r := by
  cases style with
  | modern =>
    obtain ⟨⟨comment, m⟩, hopening, rfl⟩ := Option.map_eq_some_iff.1 h
    exact Modern.open?_of_opening? hopening
  | legacy =>
    obtain ⟨o, hopening, rfl⟩ := Option.map_eq_some_iff.1 h
    exact Legacy.open?_of_opening? hopening

/-- **No line is accepted by both conventions.** -/
theorem style_unique {style other : Style} (h : (openAs? style line).isSome = true)
    (hother : (openAs? other line).isSome = true) : style = other := by
  obtain ⟨r, hr⟩ := Option.isSome_iff_exists.1 h
  obtain ⟨s, hs⟩ := Option.isSome_iff_exists.1 hother
  have hsame : r = s := by
    rw [← Option.some.injEq, ← open?_of_openAs? hr, open?_of_openAs? hs]
  have hstyle := style_of_openAs? hr
  rw [hsame, style_of_openAs? hs] at hstyle
  exact (Option.some.inj hstyle).symm

/-- **The order in which the conventions are tried does not matter.** -/
theorem findSome?_openAs? {styles : List Style} (hall : ∀ style, style ∈ styles) (line : Text) :
    styles.findSome? (openAs? · line) = open? line := by
  cases hfound : styles.findSome? (openAs? · line) with
  | some r =>
    obtain ⟨style, -, hstyle⟩ := List.exists_of_findSome?_eq_some hfound
    exact (open?_of_openAs? hstyle).symm
  | none =>
    symm
    apply List.findSome?_eq_none_iff.2
    intro style _
    exact List.findSome?_eq_none_iff.1 hfound style (hall style)

end Reader

/-! ### Behind a start line -/

/-- Joined blocks begin with the first line of the first block, if this line is not blank. -/
theorem Body.exists_joined_cons {line : Text} (h : line.isBlank = false) (ls : List Text)
    (blocks : List (List Text)) : ∃ later, joined ((line :: ls) :: blocks) = line :: later := by
  obtain ⟨rest, htrim⟩ := trimBlankEdges_cons h ls
  rw [joined, List.map_cons, htrim, List.filter_cons_of_pos (by simp)]
  cases (blocks.map trimBlankEdges).filter (!·.isEmpty) with
  | nil => exact ⟨rest, by simp [List.intercalate]⟩
  | cons second others =>
    exact ⟨rest ++ [[]] ++ [[]].intercalate (second :: others), by simp [List.intercalate]⟩

/-- The first block that moves make is the open one, with more lines perhaps. -/
theorem Move.exists_blocks_cons (name : Text) (held : List Text) (moves : List Move) :
    ∃ ls others, blocks (some (name, held)) moves = (name, held ++ ls) :: others := by
  induction moves generalizing held with
  | nil => exact ⟨[], [], by rw [List.append_nil]; rfl⟩
  | cons move moves ih =>
    cases move with
    | begins other first =>
      exact ⟨[], blocks (some (other, first)) moves, by rw [List.append_nil]; rfl⟩
    | text line =>
      obtain ⟨ls, others, hblocks⟩ := ih (held ++ [line])
      refine ⟨line :: ls, others, ?_⟩
      rw [List.append_cons]
      exact hblocks
    | ends => exact ⟨[], blocks none moves, by rw [List.append_nil]; rfl⟩
    | rests => exact ih held

namespace Worker

variable {line : Text} {o : Legacy.Opening}

/-- **Name and purpose stay in front**, whatever is read behind the start line. -/
theorem exists_title_cons (h : Legacy.opening? line = some o) {r : Reader}
    (hr : Reader.openAs? .legacy line = some r) {ts : List Turn} (horderly : r.orderly ts = true) :
    (∃ later, (r.turns ts).result.content "Name" = o.name :: later) ∧
      ∃ later, (r.turns ts).result.content "Purpose" = o.purpose :: later := by
  obtain ⟨hname, hpurpose, hnamed, hfilled⟩ := Legacy.isStored_of_opening? h
  obtain ⟨hkeyName, hkeyPurpose⟩ := Legacy.storedName_opening
  have hdistinct : Text.ofString "Name" ≠ Text.ofString "Purpose" := by decide
  obtain ⟨ls, others, hmoves⟩ := Move.exists_blocks_cons "Purpose" [o.purpose]
    (ts.map (Turn.move .legacy o.marker))
  have hblocks : blocks .legacy line ts =
      (Text.ofString "Name", [o.name]) :: (Text.ofString "Purpose", o.purpose :: ls) :: others := by
    simp only [blocks, h, hmoves]
    rfl
  have hfind := find_turns hr horderly
  rw [hblocks] at hfind
  constructor
  · obtain ⟨later, hjoined⟩ := exists_joined_cons hnamed []
      ((((Text.ofString "Purpose", o.purpose :: ls) :: others).filter fun b =>
        Legacy.storedName b.1 = Text.ofString "Name").map (·.2))
    refine ⟨later.map Text.chomp, ?_⟩
    rw [Prologue.content, Legacy.isSectionName_opening.1.label.canonical, hfind, gathered,
      List.filter_cons_of_pos (by simp [hkeyName]), List.map_cons, hjoined, List.map_cons,
      hname.chomp]
  · obtain ⟨later, hjoined⟩ := exists_joined_cons hfilled ls
      ((others.filter fun b => Legacy.storedName b.1 = Text.ofString "Purpose").map (·.2))
    refine ⟨later.map Text.chomp, ?_⟩
    rw [Prologue.content, Legacy.isSectionName_opening.2.label.canonical, hfind, gathered,
      List.filter_cons_of_neg (by simp [hkeyName, hdistinct]),
      List.filter_cons_of_pos (by simp [hkeyPurpose]), List.map_cons, hjoined, List.map_cons,
      hpurpose.chomp]

/-- At first there is nothing but the name and the purpose. -/
theorem title_of_opening? (h : Legacy.opening? line = some o) :
    (after .legacy [.line line]).result.content "Name" = [o.name] ∧
      (after .legacy [.line line]).result.content "Purpose" = [o.purpose] := by
  have hr : Reader.openAs? .legacy line =
      some (.legacy o.marker false (Legacy.openDraft o)) := by
    rw [Reader.openAs?, h]
    rfl
  have hdistinct : Text.ofString "Purpose" ≠ Text.ofString "Name" := by decide
  have hfind : ∀ key, (after .legacy [.line line]).result.sections.find key =
      o.documentation Legacy.storedName [] key := by
    have hnone : ∀ kind ∈ ([] : List Legacy.Line),
        kind.Sound (fun _ => True) fun text => text.chomp = text := by
      intro kind hkind
      exact absurd hkind List.not_mem_nil
    rw [after_cons_of_openAs? hr]
    exact Legacy.find_foldl h hnone
  constructor
  · rw [Prologue.content, Legacy.isSectionName_opening.1.label.canonical, hfind,
      Legacy.documentation_nil h, if_pos rfl]
  · rw [Prologue.content, Legacy.isSectionName_opening.2.label.canonical, hfind,
      Legacy.documentation_nil h, if_neg hdistinct, if_pos rfl]

/-- **Start lines.** Let a line have no line feed in it. The modern convention accepts it just in
case it is `*+`, `#+`, `/*+` or `/#+` between white space, and the legacy convention just in case
what it is between white space has proper parts: a marker and a plus sign, a word, a hyphen by
itself and the rest, with white space in front of each. There is one way at most to take it apart.
A worker of the legacy convention begins with the word as its name and with the rest as its purpose,
and these stay in front of whatever these sections get from the lines that come behind. No line is
accepted by both conventions, so the order in which they are tried does not matter. And a worker
that has begun with a line it accepts refuses nothing any more, whatever lines come and whenever it
settles: neither a line nor the name of a section. -/
theorem opens_on_start_line (line : Text) (hnewline : Text.newline ∉ line) :
    ((Reader.openAs? .modern line).isSome = true ↔ line.trim ∈ [Text.ofString "*+",
        Text.ofString "#+", Text.ofString "/*+", Text.ofString "/#+"]) ∧
      ((Reader.openAs? .legacy line).isSome = true ↔
        ∃ p : Legacy.Parts, p.IsProper ∧ line.trim = p.text) ∧
      (∀ p : Legacy.Parts, p.IsProper → line.trim = p.text →
        (∀ q : Legacy.Parts, q.IsProper → line.trim = q.text → q = p) ∧
        (after .legacy [.line line]).result.content "Name" = [p.name] ∧
        (after .legacy [.line line]).result.content "Purpose" = [p.purpose] ∧
        ∀ (r : Reader) (ts : List Turn), Reader.openAs? .legacy line = some r →
          r.orderly ts = true →
          (∃ later, (after .legacy (.line line :: ts)).result.content "Name" = p.name :: later) ∧
          ∃ later, (after .legacy (.line line :: ts)).result.content "Purpose" =
            p.purpose :: later) ∧
      ¬ ((Reader.openAs? .modern line).isSome = true ∧
        (Reader.openAs? .legacy line).isSome = true) ∧
      (∀ styles : List Style, (∀ style, style ∈ styles) →
        styles.findSome? (Reader.openAs? · line) = Reader.open? line) ∧
      ∀ style : Style, (Reader.openAs? style line).isSome = true → ∀ ts : List Turn,
        (.line line :: ts).foldlM turnChecked { style } = .ok (after style (.line line :: ts)) := by
  refine ⟨?_, ?_, ?_, ?_, ?_, ?_⟩
  · rw [Reader.openAs?, Option.isSome_map]
    exact Modern.isSome_opening?_iff
  · rw [Reader.openAs?, Option.isSome_map, Option.isSome_iff_exists]
    constructor
    · intro h
      obtain ⟨o, ho⟩ := h
      obtain ⟨p, hp, htrim, -⟩ := (Legacy.opening?_eq_some_iff hnewline).1 ho
      exact ⟨p, hp, htrim⟩
    · intro h
      obtain ⟨p, hp, htrim⟩ := h
      exact ⟨p.opening, (Legacy.opening?_eq_some_iff hnewline).2 ⟨p, hp, htrim, rfl⟩⟩
  · intro p hp htrim
    have hopening : Legacy.opening? line = some p.opening :=
      (Legacy.opening?_eq_some_iff hnewline).2 ⟨p, hp, htrim, rfl⟩
    obtain ⟨hname, hpurpose⟩ := title_of_opening? hopening
    refine ⟨?_, hname, hpurpose, ?_⟩
    · intro q hq hother
      exact Legacy.Parts.eq_of_text_eq hq hp (hother.symm.trans htrim)
    · intro r ts hr horderly
      rw [after_cons_of_openAs? hr]
      exact exists_title_cons hopening hr horderly
  · intro hboth
    obtain ⟨hmodern, hlegacy⟩ := hboth
    exact absurd (Reader.style_unique hmodern hlegacy) (by decide)
  · intro styles hall
    exact Reader.findSome?_openAs? hall line
  · intro style haccepted ts
    obtain ⟨r, hr⟩ := Option.isSome_iff_exists.1 haccepted
    exact foldlM_of_openAs? hr ts

/-- A start line whose name is a hyphen and whose purpose holds one. -/
theorem opens_on_start_line_hyphens :
    let line : Text := "  #+ - -  a - b "
    Text.newline ∉ line ∧
      (after .legacy [.line line]).result.content "Name" = (["-"] : List Text) ∧
      (after .legacy [.line line]).result.content "Purpose" = (["a - b"] : List Text) ∧
      (Reader.openAs? .modern line).isSome = false ∧
      [Style.legacy, Style.modern].findSome? (Reader.openAs? · line) = Reader.open? line ∧
      ∀ ts : List Turn, (.line line :: ts).foldlM turnChecked { style := .legacy } =
        .ok (after .legacy (.line line :: ts)) := by
  intro line
  have hnewline : Text.newline ∉ line := by decide
  obtain ⟨hmodern, hlegacy, hparts, -, horder, hunrefused⟩ := opens_on_start_line line hnewline
  let p : Legacy.Parts := ⟨.hash, " ", "-", " ", "  ", "a - b"⟩
  have hp : p.IsProper := ⟨⟨by decide, by decide⟩, by decide, ⟨by decide, by decide⟩,
    ⟨by decide, by decide⟩, _, _, rfl, by decide⟩
  have htrim : line.trim = p.text := by decide
  obtain ⟨-, hname, hpurpose, -⟩ := hparts p hp htrim
  refine ⟨hnewline, hname, hpurpose, ?_, horder _ ?_, hunrefused .legacy (hlegacy.2 ⟨p, hp, htrim⟩)⟩
  · rw [← Bool.not_eq_true, hmodern]
    decide
  · intro style
    cases style with
    | modern => decide
    | legacy => decide

end Worker

end SourcePrologue

import SourcePrologue.Proofs.Convention.Reading

/-!
# Where a text stands in a modern prologue

Of the lines of a prologue those count here that are **texts**: neither blank nor a heading. A text
stands above the first heading, under a heading, or behind the empty line that has ended a section.

* **`Modern.placed`** — the texts of a prologue with their places, told from the kinds of lines
  alone;
* **`Draft.texts`** — the texts that a draft holds for a section;
* **`Modern.texts_foldl`** — after lines a draft holds the texts that stand under headings of the
  section, in order and each once;
* **`Draft.texts_settle`** — and the prologue holds them in the end.
-/

namespace SourcePrologue

open Body

/-! ### Texts among lines -/

/-- The lines that are not blank. -/
def Body.texts (ls : List Text) : List Text := ls.filter (!·.isBlank)

namespace Body

@[simp] theorem texts_nil : texts [] = [] := rfl

@[simp] theorem texts_append (ks ls : List Text) : texts (ks ++ ls) = texts ks ++ texts ls :=
  List.filter_append ks ls

theorem texts_eq_nil {ls : List Text} (h : ∀ line ∈ ls, line.isBlank = true) : texts ls = [] := by
  rw [texts, List.filter_eq_nil_iff]
  intro line hline
  rw [h line hline]
  decide

/-- Trimming loses no text. -/
theorem texts_trimBlankEdges (ls : List Text) : texts (trimBlankEdges ls) = texts ls := by
  have hfront : texts (ls.dropWhile Text.isBlank) = texts ls := by
    have hcut := List.takeWhile_append_dropWhile (p := Text.isBlank) (l := ls)
    have hblank : texts (ls.takeWhile Text.isBlank) = [] := texts_eq_nil fun line hline =>
      List.mem_takeWhile_imp hline
    rw [← congrArg texts hcut, texts_append, hblank, List.nil_append]
  have hback : texts (trimBlankEdges ls) = texts (ls.dropWhile Text.isBlank) := by
    have hcut := List.rdropWhile_append_rtakeWhile (p := Text.isBlank)
      (l := ls.dropWhile Text.isBlank)
    have hblank : texts ((ls.dropWhile Text.isBlank).rtakeWhile Text.isBlank) = [] :=
      texts_eq_nil fun line hline => List.mem_rtakeWhile_imp hline
    rw [← congrArg texts hcut, texts_append, hblank, List.append_nil]
    rfl
  rw [hback, hfront]

theorem texts_extend (held ls : List Text) : texts (extend held ls) = texts held ++ texts ls := by
  by_cases hnil : held = []
  · rw [hnil, extend_nil, texts_nil, List.nil_append]
  · rw [extend_of_ne_nil hnil, texts_append]
    rfl

/-- Joining blocks loses no text. -/
theorem texts_foldl_extend (held : List Text) (blocks : List (List Text)) :
    texts (blocks.foldl extend held) = texts held ++ texts blocks.flatten := by
  induction blocks generalizing held with
  | nil => simp
  | cons ls blocks ih =>
    rw [List.foldl_cons, ih, texts_extend, List.flatten_cons, texts_append, List.append_assoc]

end Body

/-! ### Texts of a draft -/

namespace Draft

/-- Whether the open block goes into a section. -/
def isUnder (d : Draft) (key : Text) : Bool :=
  d.heading.any fun name => SectionName.canonical name = key

/-- The texts that a draft holds for a section. -/
def texts (d : Draft) (key : Text) : List Text :=
  Body.texts (blocksUnder key d.blocks).flatten ++
    if d.isUnder key then Body.texts d.block else []

/-- A draft that has no lines outside blocks. -/
def Clean (d : Draft) : Prop := d.heading = none → d.block = []

variable {d : Draft}

theorem block_close (hd : d.Clean) : d.close.block = [] := by
  cases hheading : d.heading with
  | none =>
    rw [close, hheading]
    exact hd hheading
  | some name => rw [close, hheading]

/-- Closing a block loses no text. -/
theorem texts_close (d : Draft) (key : Text) : d.close.texts key = d.texts key := by
  cases hheading : d.heading with
  | none => rw [close, hheading]
  | some name =>
    have hunder : d.isUnder key = decide (SectionName.canonical name = key) := by
      rw [isUnder, hheading]
      rfl
    have hclosed : d.close.isUnder key = false := by rw [isUnder, heading_close, Option.any_none]
    have hblocks : d.close.blocks = if (trimBlankEdges d.block).isEmpty then d.blocks
        else d.blocks ++ [(name, trimBlankEdges d.block)] := by
      rw [close, hheading]
    rw [texts, texts, hclosed, hunder, hblocks, ← texts_trimBlankEdges d.block]
    by_cases hempty : trimBlankEdges d.block = []
    · simp [hempty]
    · rw [if_neg (by simpa using hempty), blocksUnder_append, List.flatten_append,
        Body.texts_append]
      by_cases hkey : SectionName.canonical name = key
      · simp [hkey, blocksUnder]
      · simp [hkey, blocksUnder]

theorem texts_start (hd : d.Clean) (name key : Text) : (d.start name).texts key = d.texts key := by
  have hblock : (d.start name).block = [] := block_close hd
  rw [← texts_close d key, texts, texts, hblock, isUnder, isUnder, heading_close]
  simp [start]

theorem texts_add (d : Draft) (line key : Text) :
    (d.add line).texts key = d.texts key ++ if d.isUnder key then Body.texts [line] else [] := by
  show Body.texts (blocksUnder key d.blocks).flatten ++
    (if d.isUnder key then Body.texts (d.block ++ [line]) else []) = _
  rw [texts, List.append_assoc]
  split
  · rw [Body.texts_append]
  · rfl

/-- **A settled draft has put its texts into the sections**, behind the ones that are there. -/
theorem texts_settle {N : Text → Prop} (hd : d.Sound N fun line => line.chomp = line) (key : Text) :
    Body.texts (d.settle.prologue.sections.find key) =
      Body.texts (d.prologue.sections.find key) ++ d.texts key := by
  have hclosed : d.close.texts key = Body.texts (blocksUnder key d.close.blocks).flatten := by
    rw [texts, isUnder, heading_close]
    simp
  rw [hd.find_settle, ← texts_close, hclosed, texts_foldl_extend]

end Draft

/-! ### Places -/

namespace Modern

/-- Where a text stands: **above** the first heading, **under** a heading, or **behind** the empty
line that has ended the section of a heading. -/
inductive Place where
  | above
  | under (heading : Text)
  | behind (heading : Text)
  deriving DecidableEq

namespace Place

/-- The place of what comes after a line. -/
def next : Place → Line → Place
  | _, .heading name => under name
  | under name, .separator => behind name
  | place, _ => place

/-- Whether the section with a given key is open at a place. -/
def isUnder (key : Text) : Place → Bool
  | under name => SectionName.canonical (SectionName.canonical name) = key
  | _ => false

/-- Whether the last heading before a place opened the section with a given key. -/
def follows (key : Text) : Place → Bool
  | under name | behind name => SectionName.canonical (SectionName.canonical name) = key
  | above => false

/-- Whether an empty line has ended the section of the last heading. -/
def isBehind : Place → Bool
  | behind _ => true
  | _ => false

end Place

/-- The text of a line that is neither blank nor a heading, without marker and indentation. -/
def Line.text? : Line → Option Text
  | content text | unmarked text => if text.isBlank then none else some text
  | _ => none

/-- The **texts** of lines with their places, the first of which stands at a given one. -/
def placed (place : Place) : List Line → List (Place × Text)
  | [] => []
  | kind :: kinds => (kind.text?.map (place, ·)).toList ++ placed (place.next kind) kinds

theorem placed_append (place : Place) (ks ls : List Line) :
    placed place (ks ++ ls) = placed place ks ++ placed (ks.foldl Place.next place) ls := by
  induction ks generalizing place with
  | nil => rfl
  | cons kind ks ih => rw [List.cons_append, placed, ih, placed, List.append_assoc, List.foldl_cons]

/-- The texts that stand at places of a kind, in order. -/
def textsAt (at? : Place → Bool) (ts : List (Place × Text)) : List Text :=
  (ts.filter fun t => at? t.1).map (·.2)

theorem textsAt_append (at? : Place → Bool) (ks ls : List (Place × Text)) :
    textsAt at? (ks ++ ls) = textsAt at? ks ++ textsAt at? ls := by
  rw [textsAt, List.filter_append, List.map_append]
  rfl

theorem textsAt_single (at? : Place → Bool) (place : Place) (text : Option Text) :
    textsAt at? (text.map (place, ·)).toList = if at? place then text.toList else [] := by
  cases text with
  | none => simp [textsAt]
  | some t =>
    by_cases h : at? place = true
    · simp [textsAt, h]
    · simp [textsAt, h]

/-- A text right under a heading stands under it. -/
theorem mem_textsAt_of_heading (place : Place) (ks ls : List Line) (name : Text) {text : Text}
    (htext : text.isBlank = false) :
    text ∈ textsAt (Place.isUnder (SectionName.canonical (SectionName.canonical name)))
      (placed place (ks ++ .heading name :: .content text :: ls)) := by
  have hplaced : (Place.under name, text) ∈
      placed place (ks ++ .heading name :: .content text :: ls) := by
    rw [placed_append, placed, placed]
    simp [Line.text?, Place.next, htext]
  exact List.mem_map.2 ⟨_, List.mem_filter.2 ⟨hplaced, by simp [Place.isUnder]⟩, rfl⟩

/-! ### What reading does with texts -/

/-- A draft at a place: its open block is that of the heading it stands under. -/
def Agrees (d : Draft) : Place → Prop
  | .under name => d.heading = some (SectionName.canonical name)
  | .above | .behind _ => d.heading = none

variable {d : Draft} {place : Place} {kind : Line}

theorem Agrees.isUnder (h : Agrees d place) (key : Text) : d.isUnder key = place.isUnder key := by
  cases place with
  | above => rw [Draft.isUnder, show d.heading = none from h]; rfl
  | under name => rw [Draft.isUnder, show d.heading = _ from h]; rfl
  | behind name => rw [Draft.isUnder, show d.heading = none from h]; rfl

theorem agrees_keep (h : Agrees d place) (line : Text) : Agrees (keep d line) place := by
  have hheading : (keep d line).heading = d.heading := by
    rw [keep]
    split <;> rfl
  cases place with
  | above => exact hheading.trans h
  | under name => exact hheading.trans h
  | behind name => exact hheading.trans h

/-- **A line moves a draft to the next place.** -/
theorem agrees_step (h : Agrees d place) (hkind : kind.isClosing = false) :
    Agrees (step d kind) (place.next kind) := by
  cases kind with
  | separator =>
    have hclosed := d.heading_close
    cases place with
    | above => exact hclosed
    | under name => exact hclosed
    | behind name => exact hclosed
  | unmarked text =>
    have hkept := agrees_keep h text
    cases place with
    | above => exact hkept
    | under name => exact hkept
    | behind name => exact hkept
  | closing comment => exact absurd hkind (by simp [Line.isClosing])
  | heading name => exact rfl
  | content text =>
    have hkept := agrees_keep h text
    cases place with
    | above => exact hkept
    | under name => exact hkept
    | behind name => exact hkept

theorem clean_keep (hd : d.Clean) (line : Text) : (keep d line).Clean := by
  rw [keep]
  split
  · next hopen =>
    intro hheading
    rw [Draft.isOpen, show d.heading = none from hheading] at hopen
    exact Bool.noConfusion hopen
  · exact hd

theorem clean_step (hd : d.Clean) (hkind : kind.isClosing = false) : (step d kind).Clean := by
  cases kind with
  | separator => exact fun _ => Draft.block_close hd
  | unmarked text => exact clean_keep hd text
  | closing comment => exact absurd hkind (by simp [Line.isClosing])
  | heading name => exact fun _ => Draft.block_close hd
  | content text => exact clean_keep hd text

/-- A line that may be stored adds its text to the section that is open. -/
theorem texts_keep (d : Draft) (line key : Text) : (keep d line).texts key =
    d.texts key ++ if d.isUnder key then Body.texts [line] else [] := by
  rw [keep]
  split
  · exact d.texts_add line key
  · next hopen =>
    have hnone : d.heading = none := by simpa [Draft.isOpen] using hopen
    rw [Draft.isUnder, hnone]
    simp

/-- **A line adds its text to the section that is open**, and nothing to any other one. -/
theorem texts_step (hd : d.Clean) (hkind : kind.isClosing = false) (key : Text) :
    (step d kind).texts key = d.texts key ++ if d.isUnder key then kind.text?.toList else [] := by
  have hstored : ∀ text : Text, Body.texts [text] =
      (if text.isBlank then none else some text : Option Text).toList := by
    intro text
    cases hblank : text.isBlank <;> simp [Body.texts, hblank]
  cases kind with
  | separator =>
    show d.close.texts key = _
    rw [Draft.texts_close]
    simp [Line.text?]
  | unmarked text =>
    show (keep d text).texts key = _
    rw [texts_keep, hstored]
    rfl
  | closing comment => exact absurd hkind (by simp [Line.isClosing])
  | heading name =>
    show (d.start name).texts key = _
    rw [Draft.texts_start hd]
    simp [Line.text?]
  | content text =>
    show (keep d text).texts key = _
    rw [texts_keep, hstored]
    rfl

/-- **Lines add the texts that stand under headings of a section**, in order and each once. -/
theorem texts_foldl {kinds : List Line} (hd : d.Clean) (hplace : Agrees d place)
    (hkinds : ∀ kind ∈ kinds, kind.isClosing = false) (key : Text) :
    (kinds.foldl step d).texts key =
      d.texts key ++ textsAt (Place.isUnder key) (placed place kinds) := by
  induction kinds generalizing d place with
  | nil => exact (List.append_nil _).symm
  | cons kind kinds ih =>
    have hkind := hkinds kind List.mem_cons_self
    rw [List.foldl_cons, ih (clean_step hd hkind) (agrees_step hplace hkind)
      (fun k hk => hkinds k (List.mem_cons_of_mem kind hk)), texts_step hd hkind, placed,
      textsAt_append, textsAt_single, hplace.isUnder, List.append_assoc]

/-- When fewer places count and the texts are the same, the other places have no texts. -/
theorem forall_of_textsAt_eq {at? of? : Place → Bool} {ts : List (Place × Text)}
    (himp : ∀ place, at? place = true → of? place = true) (h : textsAt at? ts = textsAt of? ts) :
    ∀ t ∈ ts, of? t.1 = true → at? t.1 = true := by
  have hsublist : (ts.filter fun t => at? t.1).Sublist (ts.filter fun t => of? t.1) :=
    List.monotone_filter_right ts fun t => himp t.1
  have hlength : (ts.filter fun t => at? t.1).length = (ts.filter fun t => of? t.1).length := by
    have hmapped := congrArg List.length h
    rw [textsAt, textsAt, List.length_map, List.length_map] at hmapped
    exact hmapped
  have hsame := hsublist.eq_of_length hlength
  intro t ht hof
  have hmem : t ∈ ts.filter fun t => of? t.1 := List.mem_filter.2 ⟨ht, hof⟩
  rw [← hsame] at hmem
  exact (List.mem_filter.1 hmem).2

theorem Place.follows_of_isUnder {key : Text} (place : Place) (h : place.isUnder key = true) :
    place.follows key = true := by
  cases place with
  | above => exact h
  | under name => exact h
  | behind name => exact Bool.noConfusion h

/-- The texts that follow headings all stand under them just in case no text stands behind the end
of a section. -/
theorem textsAt_isUnder_eq_iff (ts : List (Place × Text)) :
    (∀ key, textsAt (Place.isUnder key) ts = textsAt (Place.follows key) ts) ↔
      ∀ t ∈ ts, t.1.isBehind = false := by
  constructor
  · intro h t ht
    cases hplace : t.1 with
    | above => rfl
    | under name => rfl
    | behind name =>
      -- otherwise the section of that heading would lack the text
      have hkey := h (SectionName.canonical (SectionName.canonical name))
      have hfollows : t.1.follows (SectionName.canonical (SectionName.canonical name)) = true := by
        rw [hplace]
        exact decide_eq_true rfl
      have hunder := forall_of_textsAt_eq Place.follows_of_isUnder hkey t ht hfollows
      rw [hplace] at hunder
      exact Bool.noConfusion hunder
  · intro h key
    have hsame : (ts.filter fun t => t.1.isUnder key) = ts.filter fun t => t.1.follows key := by
      refine List.filter_congr fun t ht => ?_
      have hplace := h t ht
      cases hcase : t.1 with
      | above => rfl
      | under name => rfl
      | behind name =>
        rw [hcase] at hplace
        exact Bool.noConfusion hplace
    rw [textsAt, textsAt, hsame]

end Modern

end SourcePrologue

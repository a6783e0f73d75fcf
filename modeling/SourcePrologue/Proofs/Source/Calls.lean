import SourcePrologue.Proofs.Source.Found
import SourcePrologue.Proofs.Source.LegacyDocumentation

/-!
# What a scanner returns

A scanner is called with one line after another and, now and then, for the prologue that it is in.
Lines may be anything; line ends inside of them are not looked at. Whatever the calls are, a
prologue that is returned is in canonical form if the names in its headings are ASCII.

* **`Scanner.call`**, **`Scanner.afterCalls`** — calls, and the scanner behind them;
* **`Scanner.OpenedBy`** — the start line that has opened the prologue a scanner is in;
* **`Reader.Begun`** — what a legacy reader has read is the start line and what came after it, so
  that it has a name and a purpose (`Legacy.documentation_title`);
* **`Scanner.kept_afterCalls`** — what holds of the reader of a scanner behind any calls;
* **`Scanner.returned_in_canonical_form`** — what is returned is in canonical form.
-/

namespace SourcePrologue

open Body SectionName

/-! ### Lines as they are kept -/

/-- A line as it is **kept** of any text: it does not end with a line end, and it is empty if it is
blank. -/
structure Body.IsKept (line : Text) : Prop where
  chomp : line.chomp = line
  empty : line.isBlank = true → line = []

theorem Body.isLineProperty_isKept : IsLineProperty IsKept :=
  ⟨fun _ h => h.chomp, fun _ h => ⟨h.chomp, h.empty⟩⟩

theorem Body.isKept_of_suffix {t line : Text} (hchomp : line.chomp = line) (ht : t <:+ line)
    (hblank : t.isBlank = false) : IsKept t := by
  refine ⟨Text.chomp_of_suffix ht hchomp, fun h => ?_⟩
  rw [hblank] at h
  exact Bool.noConfusion h

theorem Body.IsKept.lineEnd {line : Text} (h : IsKept line) :
    line.getLast? ≠ some Text.newline ∧ line.getLast? ≠ some Text.carriageReturn :=
  Text.getLast?_of_chomp h.chomp

/-! ### Canonical form -/

/-- A prologue in **canonical form**: it has one of the two markers; its sections have canonical
names that are read back from headings; their lines have no blank edges; and no line has a line end
or is blank without being empty. -/
structure Prologue.InCanonicalForm (p : Prologue) : Prop where
  marker : p.commentChar = Text.ofChar '*' ∨ p.commentChar = Text.ofChar '#'
  names : ∀ e ∈ p.listing, canonical e.1 = e.1
  grammar : ∀ e ∈ p.listing, Heading.isName e.1 = true ∧
    ∀ rest, Heading.split? (Text.ofString "  " ++ e.1 ++ .char ':' :: rest) = some (e.1, rest)
  edges : ∀ e ∈ p.listing, Trimmed e.2
  blanks : ∀ e ∈ p.listing, ∀ line ∈ e.2, line.isBlank = true → line = []
  lineEnds : ∀ e ∈ p.listing, ∀ line ∈ e.2,
    line.getLast? ≠ some Text.newline ∧ line.getLast? ≠ some Text.carriageReturn

/-- A prologue in the form of the **legacy** convention: no C comment comes with it, it has a name
and a purpose, and no section has a name that has changed or that introduces declarations. -/
structure Prologue.InLegacyForm (p : Prologue) : Prop where
  bare : p.opensComment = false ∧ p.closesComment = false
  titled : p.content "Name" ≠ [] ∧ p.content "Purpose" ≠ []
  documented : ∀ name ∈ p.sectionNames, name ∉ Legacy.declarations
  current : ∀ name ∈ p.sectionNames, name ∉ Legacy.renames.map (·.1)

/-- Blocks of kept lines under labels are in canonical form. -/
theorem Prologue.inCanonicalForm_of_isBlock {p : Prologue} {m : Marker}
    (hm : p.commentChar = [m.glyph]) (h : ∀ e ∈ p.sections.entries, IsBlock IsLabel IsKept e) :
    p.InCanonicalForm := by
  have hlisting : ∀ e ∈ p.listing, IsBlock IsLabel IsKept e := by
    intro e he
    obtain ⟨name, hname, rfl⟩ := List.mem_map.1 he
    have hblock := h _ (Sections.mem_entries_of_find (mem_sectionNames_iff.1 hname))
    show IsBlock IsLabel IsKept (name, p.content name)
    rw [content, hblock.1.canonical]
    exact hblock
  refine ⟨?_, fun e he => (hlisting e he).1.canonical,
    fun e he => ⟨(hlisting e he).1.grammar, Heading.split?_label (hlisting e he).1⟩,
    fun e he => (hlisting e he).2.1, fun e he line hline => ((hlisting e he).2.2 line hline).empty,
    fun e he line hline => ((hlisting e he).2.2 line hline).lineEnd⟩
  rw [hm]
  cases m with
  | star => exact Or.inl rfl
  | hash => exact Or.inr rfl

/-! ### Readers -/

namespace Reader

/-- A reader that has **begun** with a start line: a legacy one has read that line and then the
lines behind it. -/
def Begun : Reader → Prop
  | modern _ _ => True
  | legacy _ _ d => ∃ (line : Text) (o : Legacy.Opening) (kinds : List Legacy.Line),
      Legacy.opening? line = some o ∧
      (∀ kind ∈ kinds, kind.Sound (fun _ => True) fun text => text.chomp = text) ∧
      d = kinds.foldl Legacy.step (Legacy.openDraft o)

variable {r : Reader} {line : Text}

theorem begun_of_open? (h : open? line = some r) : r.Begun := by
  obtain ⟨style, hstyle⟩ := exists_openAs? h
  cases style with
  | modern =>
    obtain ⟨⟨comment, m⟩, -, rfl⟩ := Option.map_eq_some_iff.1 hstyle
    exact True.intro
  | legacy =>
    obtain ⟨o, ho, rfl⟩ := Option.map_eq_some_iff.1 hstyle
    exact ⟨line, o, [], ho, by simp, rfl⟩

theorem begun_push (h : r.Begun) (hchomp : line.chomp = line)
    (hopen : (r.push line).2.prologue = none) : (r.push line).1.Begun := by
  cases r with
  | modern m d => exact True.intro
  | legacy m seen d =>
    obtain ⟨start, o, kinds, hstart, hkinds, rfl⟩ := h
    have hgoes : (Legacy.classify m line).isEnd seen = false := by
      by_contra hend
      rw [Bool.not_eq_false] at hend
      rw [Legacy.push_of_end hend] at hopen
      exact Option.some_ne_none _ hopen
    rw [(Legacy.push_of_open hgoes).1]
    refine ⟨start, o, kinds ++ [Legacy.classify m line], hstart, fun kind hkind => ?_, ?_⟩
    · rcases List.mem_append.1 hkind with hkind | hkind
      · exact hkinds kind hkind
      · rw [List.mem_singleton.1 hkind]
        exact Legacy.chomp_classify hchomp
    · rw [List.foldl_append]
      rfl

/-- **What a legacy reader has read** is in the form of its convention. -/
theorem inLegacyForm_result {m : Marker} {seen : Bool} {d : Draft}
    (hsound : (legacy m seen d).SoundFor IsKept) (hbegun : (legacy m seen d).Begun) :
    (legacy m seen d).result.InLegacyForm := by
  obtain ⟨hblocks, hprologue⟩ := soundFor_settle isLineProperty_isKept hsound
  obtain ⟨line, o, kinds, hstart, hkinds, hd⟩ := hbegun
  have hfind : ∀ key, (legacy m seen d).result.sections.find key =
      o.documentation Legacy.storedName kinds key := by
    rw [hd]
    exact Legacy.find_foldl hstart hkinds
  have hentries : ∀ name ∈ (legacy m seen d).result.sectionNames, Legacy.IsSectionName name := by
    intro name hname
    have hfilled := Prologue.mem_sectionNames_iff.1 hname
    exact (hblocks.sections _ (Sections.mem_entries_of_find hfilled)).1
  have htitle := Legacy.documentation_title hstart kinds
  have hlabels := Legacy.isSectionName_opening
  refine ⟨?_, ?_, fun name hname => (hentries name hname).documented,
    fun name hname => (hentries name hname).current⟩
  · have hresult : (legacy m seen d).result = d.settle.prologue := rfl
    rw [hresult, hprologue]
    exact ⟨rfl, rfl⟩
  · rw [Prologue.content, Prologue.content, hlabels.1.label.canonical, hlabels.2.label.canonical,
      hfind, hfind]
    exact htitle

/-- What a sound reader gives is in canonical form. -/
theorem inCanonicalForm_draft (h : r.SoundFor IsKept) : r.draft.prologue.InCanonicalForm := by
  cases r with
  | modern m d => exact Prologue.inCanonicalForm_of_isBlock h.2.1 h.1.sections
  | legacy m seen d =>
    refine Prologue.inCanonicalForm_of_isBlock (m := m) ?_
      (h.1.mono fun name hname => hname.label).sections
    rw [draft, h.2]

end Reader

/-! ### Calls -/

namespace Scanner

/-- A **call** of a scanner: with a line, or for the prologue that it is in. -/
inductive Call where
  | line (text : Text)
  | flush

/-- The scanner behind a call, and the prologue that the call returns. Having been asked for the
prologue that it is in, the scanner is outside again. -/
def call (s : Scanner) : Call → Scanner × Option Prologue
  | .line text => ((s.push text).1, (s.push text).2.prologue)
  | .flush => ({}, s.flush)

/-- The scanner behind calls. -/
def afterCalls (s : Scanner) (cs : List Call) : Scanner := cs.foldl (fun s c => (s.call c).1) s

/-- The name in the heading that a call gives to the reader of a prologue. -/
def headingOf? (s : Scanner) : Call → Option Text
  | .line text => s.reader.bind (·.headingName? text.chomp)
  | .flush => none

/-- Whether the **names in headings** are ASCII, in the calls of a scanner. -/
def asciiCalls (s : Scanner) : List Call → Bool
  | [] => true
  | c :: cs => (s.headingOf? c).all Text.isAscii && asciiCalls (s.call c).1 cs

/-- The prologue that a scanner is in behind calls has been **opened by** a line, which the scanner
took for a start line of a convention when it was outside of all prologues; all calls since have
been with lines, and the scanner has not left the prologue. -/
def OpenedBy (cs : List Call) (style : Style) (start : Text) : Prop :=
  ∃ (before : List Call) (ls : List Text), cs = before ++ .line start :: ls.map .line ∧
    (afterCalls {} before).inPrologue = false ∧
    (∃ r, Reader.open? start.chomp = some r ∧ Reader.openAs? style start.chomp = some r) ∧
    ∀ ks, ks <+: ls → (afterCalls {} (before ++ .line start :: ks.map .line)).inPrologue = true

variable {s : Scanner} {c : Call} {cs : List Call}

theorem afterCalls_concat (s : Scanner) (cs : List Call) (c : Call) :
    afterCalls s (cs ++ [c]) = ((afterCalls s cs).call c).1 := by
  rw [afterCalls, List.foldl_append]
  rfl

theorem asciiCalls_concat (s : Scanner) (cs : List Call) (c : Call) :
    asciiCalls s (cs ++ [c]) =
      (asciiCalls s cs && ((afterCalls s cs).headingOf? c).all Text.isAscii) := by
  induction cs generalizing s with
  | nil => simp [asciiCalls, afterCalls]
  | cons first cs ih =>
    rw [List.cons_append, asciiCalls, asciiCalls, ih, Bool.and_assoc]
    rfl

/-- **A prologue that a call returns** is the one that the reader has read, or the one that a line
has completed; and what completes a legacy prologue adds nothing to it. -/
theorem returned_of_call {p : Prologue} (hp : (s.call c).2 = some p) :
    ∃ r, s.reader = some r ∧ (p = r.result ∨ ∃ m d text, r = .modern m d ∧ c = .line text ∧
      p = (r.push text.chomp).1.draft.prologue) := by
  cases c with
  | flush =>
    obtain ⟨r, hr, hresult⟩ := Option.map_eq_some_iff.1 hp
    exact ⟨r, hr, Or.inl hresult.symm⟩
  | line text =>
    obtain ⟨r, hr, hdraft⟩ := prologue_of_push hp
    refine ⟨r, hr, ?_⟩
    cases r with
    | modern m d => exact Or.inr ⟨m, d, text, rfl, rfl, hdraft⟩
    | legacy m seen d =>
      change (s.push text).2.prologue = some p at hp
      rw [push_of_inside hr] at hp
      have hend : (Legacy.classify m text.chomp).isEnd seen = true := by
        by_contra hopen
        rw [Bool.not_eq_true] at hopen
        rw [(Legacy.push_of_open hopen).2] at hp
        exact Option.some_ne_none _ hp.symm
      rw [Legacy.push_of_end hend] at hp
      exact Or.inl (Option.some.inj hp).symm

/-! ### Readers behind calls -/

/-- A line whose heading has an ASCII name keeps a reader sound but for line ends inside lines. -/
theorem soundFor_reader_push {r : Reader} (hr : s.reader = some r) (hsound : r.SoundFor IsKept)
    {text : Text} (hascii : (s.headingOf? (.line text)).all Text.isAscii = true) :
    (r.push text.chomp).1.SoundFor IsKept := by
  refine Reader.soundFor_push isLineProperty_isKept hsound
    (fun _ => isKept_of_suffix (Text.chomp_chomp text)) fun name hname => ?_
  refine (Option.all_eq_true _ _).1 hascii name ?_
  rw [headingOf?, hr]
  exact hname

/-- **What holds of the reader behind any calls**: it has begun with a start line, and it is sound
but for line ends inside of lines. -/
theorem kept_afterCalls (hascii : asciiCalls {} cs = true) :
    ∀ r, (afterCalls {} cs).reader = some r → r.SoundFor IsKept ∧ r.Begun := by
  -- lines are added at the end, where the reader is
  induction cs using List.reverseRecOn with
  | nil => exact fun r hr => absurd hr (by simp [afterCalls])
  | append_singleton cs c ih =>
    rw [asciiCalls_concat, Bool.and_eq_true] at hascii
    rw [afterCalls_concat]
    cases c with
    | flush => exact fun r hr => absurd hr (by simp [call])
    | line text =>
      refine reader_push_of_open (fun r _ hopened => ?_) fun r hr hopen => ?_
      · exact ⟨(Reader.sound_of_open? hopened).soundFor isLineProperty_isKept,
          Reader.begun_of_open? hopened⟩
      · obtain ⟨hsound, hbegun⟩ := ih hascii.1 r hr
        exact ⟨soundFor_reader_push hr hsound hascii.2,
          Reader.begun_push hbegun (Text.chomp_chomp text) hopen⟩

/-- **The start line of the prologue that a scanner is in.** -/
theorem openedBy_afterCalls {r : Reader} (hr : (afterCalls {} cs).reader = some r) :
    ∃ style start, r.draft.prologue.style = some style ∧ OpenedBy cs style start := by
  induction cs using List.reverseRecOn generalizing r with
  | nil => exact absurd hr (by simp [afterCalls])
  | append_singleton cs c ih =>
    have hinside : (afterCalls {} (cs ++ [c])).inPrologue = true := by
      rw [inPrologue, hr]
      rfl
    rw [afterCalls_concat] at hr
    cases c with
    | flush => exact absurd hr (by simp [call])
    | line text =>
      refine reader_push_of_open (I := fun r => ∃ style start,
        r.draft.prologue.style = some style ∧ OpenedBy (cs ++ [.line text]) style start)
        (fun r hreader hopened => ?_) (fun r hreader _ => ?_) r hr
      · obtain ⟨style, hstyle⟩ := Reader.exists_openAs? hopened
        refine ⟨style, text, Reader.style_of_openAs? hstyle, cs, [], rfl,
          by simp [inPrologue, hreader], ⟨r, hopened, hstyle⟩, fun ks hks => ?_⟩
        rw [List.prefix_nil.1 hks]
        exact hinside
      · obtain ⟨style, start, hstyle, before, ls, hcs, houtside, hstart, hgoes⟩ := ih hreader
        refine ⟨style, start, (Reader.style_push r _).trans hstyle, before, ls ++ [text], ?_,
          houtside, hstart, fun ks hks => ?_⟩
        · rw [hcs, List.map_append, List.append_assoc]
          rfl
        · rcases List.prefix_concat_iff.1 hks with rfl | hks
          · rw [hcs, List.append_assoc] at hinside
            rw [List.map_append]
            exact hinside
          · exact hgoes ks hks

/-- **What a scanner returns is in canonical form.** Let a scanner be called in any way, with ASCII
names in the headings that readers are given. Each prologue that it returns is in canonical form,
and in the form of the legacy convention if that is its style. Its style is the one of the
convention that has accepted its start line: the last line that the scanner was given outside of
all prologues. -/
theorem returned_in_canonical_form (cs : List Call) (c : Call)
    (hascii : asciiCalls {} (cs ++ [c]) = true) (p : Prologue)
    (hp : ((afterCalls {} cs).call c).2 = some p) :
    p.InCanonicalForm ∧ (p.style = some .legacy → p.InLegacyForm) ∧
      ∃ style start, p.style = some style ∧ OpenedBy cs style start := by
  rw [asciiCalls_concat, Bool.and_eq_true] at hascii
  obtain ⟨r, hr, hreturned⟩ := returned_of_call hp
  obtain ⟨hsound, hbegun⟩ := kept_afterCalls hascii.1 r hr
  obtain ⟨style, start, hstyle, hopened⟩ := openedBy_afterCalls hr
  rcases hreturned with rfl | ⟨m, d, text, rfl, rfl, rfl⟩
  · refine ⟨Reader.inCanonicalForm_draft (Reader.soundFor_settle isLineProperty_isKept hsound),
      fun hlegacy => ?_, style, start, (Reader.style_settle r).trans hstyle, hopened⟩
    cases r with
    | modern m d =>
      have hmodern := (Reader.style_settle (.modern m d)).trans hsound.2.2
      exact absurd (hmodern.symm.trans hlegacy) (by decide)
    | legacy m seen d => exact Reader.inLegacyForm_result hsound hbegun
  · have hpushed := Reader.style_push (.modern m d) text.chomp
    refine ⟨Reader.inCanonicalForm_draft (soundFor_reader_push hr hsound hascii.2),
      fun hlegacy => ?_, style, start, hpushed.trans hstyle, hopened⟩
    exact absurd ((hpushed.trans hsound.2.2).symm.trans hlegacy) (by decide)

/-- A line break inside of a line, a name that has changed, and a heading that is repeated. -/
theorem returned_in_canonical_form_repeated :
    let cs : List Call := [.line "*-", .line "*+  FOO - Does foo", .line "*    Author : Me\r\n",
      .line "*     \t", .line "*    Notes :", .line "*     one\rtwo", .line "*    Author :",
      .line "*       You"]
    asciiCalls {} (cs ++ [.flush]) = true ∧ ∃ p, ((afterCalls {} cs).call .flush).2 = some p ∧
      p.InCanonicalForm ∧ p.InLegacyForm ∧ p.content "Authors" = (["Me", [], "  You"] : List Text) ∧
      p.style = some .legacy := by
  intro cs
  have hascii : asciiCalls {} (cs ++ [.flush]) = true := by decide +kernel
  refine ⟨hascii, ?_⟩
  cases hp : ((afterCalls {} cs).call .flush).2 with
  | none => exact absurd hp (by decide +kernel)
  | some p =>
    obtain ⟨hcanonical, hlegacy, -⟩ := returned_in_canonical_form cs .flush hascii p hp
    have hstyle : p.style = some .legacy := by
      have hall : ((afterCalls {} cs).call .flush).2.all (·.style = some .legacy) = true := by
        decide +kernel
      rw [hp] at hall
      simpa using hall
    have hauthors : p.content "Authors" = (["Me", [], "  You"] : List Text) := by
      have hall : ((afterCalls {} cs).call .flush).2.all
          (·.content "Authors" = (["Me", [], "  You"] : List Text)) = true := by decide +kernel
      rw [hp] at hall
      simpa using hall
    exact ⟨p, rfl, hcanonical, hlegacy hstyle, hauthors, hstyle⟩

end Scanner

end SourcePrologue

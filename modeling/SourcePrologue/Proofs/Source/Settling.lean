import SourcePrologue.Proofs.Convention.Moves
import SourcePrologue.Proofs.Source.Calls

/-!
# Settling at any time

A worker can be asked for the prologue as far as it has been read, and then go on reading. Each time
everything read since the last time is put into the prologue.

* **`Turn`**, **`Worker.after`** — lines and settlings in any order;
* **`Reader.sections_turns`** — after them the prologue holds the blocks that were read, each of
  them once and in order;
* **`Modern.alike_turns`** — in a modern prologue, settling and an empty line lead to drafts that
  are alike, and so to the same prologue;
* **`Scanner.push_of_flush`** — what a scanner gives when it is asked for the prologue it is in is
  what an end marker would give;
* **`Worker.settled_document`** — all of this about workers and scanners behind any calls. A block
  whose name is not settled is stored under another name, and only such a block is.
-/

namespace SourcePrologue

open Body SectionName

/-! ### Turns -/

/-- The move that a line of the modern convention makes. -/
def Modern.Line.move : Modern.Line → Move
  | separator => .ends
  | unmarked text => .text text
  | closing _ => .ends
  | heading name => .begins name []
  | content text => .text text

/-- The move that a line of the legacy convention makes. -/
def Legacy.Line.move : Legacy.Line → Move
  | code => .rests
  | closing => .ends
  | endHistory => .rests
  | declaration => .ends
  | heading name trailing => .begins name (if trailing.isEmpty then [] else [trailing])
  | content text => .text text

/-- What is asked of a worker: to take a line, or to settle. -/
inductive Turn where
  | line (text : Text)
  | settle
  deriving DecidableEq

/-- The move of a turn in a prologue of a given convention and marker. Settling ends a block. -/
def Turn.move (style : Style) (m : Marker) : Turn → Move
  | line text => match style with
    | .modern => (Modern.classify m text).move
    | .legacy => (Legacy.classify m text).move
  | settle => .ends

namespace Reader

/-- The convention of a reader. -/
def convention : Reader → Style
  | modern _ _ => .modern
  | legacy _ _ _ => .legacy

/-- The marker of a reader. -/
def marker : Reader → Marker
  | modern m _ => m
  | legacy m _ _ => m

/-- The reader after a turn. -/
def turn (r : Reader) : Turn → Reader
  | .line text => (r.push text).1
  | .settle => r.settle

/-- The reader after turns. -/
def turns (r : Reader) (ts : List Turn) : Reader := ts.foldl turn r

/-- Whether a turn is a line that ends the prologue. -/
def ends (r : Reader) : Turn → Bool
  | .line text => (r.push text).2.prologue.isSome
  | .settle => false

/-- Whether **no line comes behind one that has ended the prologue**; settling may. -/
def orderly (r : Reader) : List Turn → Bool
  | [] => true
  | t :: ts => if r.ends t then ts.all (· == .settle) else (r.turn t).orderly ts

variable {r : Reader} {t : Turn} {ts : List Turn}

theorem turns_append (r : Reader) (ts us : List Turn) :
    r.turns (ts ++ us) = (r.turns ts).turns us := List.foldl_append

theorem turn_kind (r : Reader) (t : Turn) :
    (r.turn t).convention = r.convention ∧ (r.turn t).marker = r.marker := by
  cases t with
  | settle => cases r <;> exact ⟨rfl, rfl⟩
  | line text =>
    cases r with
    | modern m d => exact ⟨rfl, rfl⟩
    | legacy m seen d =>
      rw [turn, push]
      split
      · exact ⟨rfl, rfl⟩
      · exact ⟨rfl, rfl⟩

theorem result_settle (r : Reader) : r.settle.result = r.result := by
  cases r with
  | modern m d => exact congrArg Draft.prologue d.settle_settle
  | legacy m seen d => exact congrArg Draft.prologue d.settle_settle

theorem settle_settle (r : Reader) : r.settle.settle = r.settle := by
  cases r with
  | modern m d => exact congrArg (modern m) d.settle_settle
  | legacy m seen d => exact congrArg (legacy m seen) d.settle_settle

theorem result_settlings (h : ts.all (· == .settle) = true) : (r.turns ts).result = r.result := by
  induction ts generalizing r with
  | nil => rfl
  | cons t ts ih =>
    rw [List.all_cons, Bool.and_eq_true, beq_iff_eq] at h
    rw [h.1]
    exact (ih h.2).trans (result_settle r)

end Reader

/-! ### Lines as moves -/

theorem Modern.step_eq_move (d : Draft) {kind : Modern.Line} (h : kind.isClosing = false) :
    Modern.step d kind = d.move kind.move := by
  cases kind with
  | closing comment => exact absurd h (by simp [Modern.Line.isClosing])
  | separator => rfl
  | unmarked text => rfl
  | heading name => rfl
  | content text => rfl

theorem Legacy.step_eq_move (d : Draft) {seen : Bool} {kind : Legacy.Line}
    (h : kind.isEnd seen = false) : Legacy.step d kind = d.move kind.move := by
  cases kind with
  | heading name trailing =>
    show (if trailing.isEmpty then d.start name else (d.start name).add trailing) =
      (if trailing.isEmpty then [] else [trailing]).foldl Draft.add (d.start name)
    split
    · rfl
    · rfl
  | closing => exact absurd h (by simp [Legacy.Line.isEnd])
  | declaration => exact absurd h (by simp [Legacy.Line.isEnd])
  | content text => rfl
  | code => rfl
  | endHistory => rfl

/-- A heading of the legacy convention begins a block under a settled name: the canonical form of
what it says, or a name that has replaced this. -/
theorem Legacy.isSettled_of_move {m : Marker} {line name : Text} {first : List Text}
    (h : (classify m line).move = .begins name first) : IsSettled name := by
  have hrenames : ∀ e ∈ renames, IsSettled e.2 := by decide +kernel
  rcases classify_cases m line with hkind | hkind | hkind | hkind |
    ⟨raw, trailing, tail, -, -, -, -, hkind⟩ | ⟨t, -, hkind⟩
  · exact Move.noConfusion (hkind ▸ h)
  · exact Move.noConfusion (hkind ▸ h)
  · exact Move.noConfusion (hkind ▸ h)
  · exact Move.noConfusion (hkind ▸ h)
  · rw [hkind, Line.move, Move.begins.injEq] at h
    rw [← h.1]
    cases hlookup : renames.lookup (SectionName.canonical raw) with
    | none => exact isSettled_canonical raw
    | some renamed => exact hrenames _ (mem_of_lookup hlookup)
  · exact Move.noConfusion (hkind ▸ h)

namespace Reader

variable {r : Reader} {t : Turn} {ts : List Turn} {text : Text}

/-- A line that does not end the prologue makes its move. -/
theorem draft_push (h : r.ends (.line text) = false) :
    (r.push text).1.draft = r.draft.move (Turn.move r.convention r.marker (.line text)) := by
  cases r with
  | modern m d =>
    refine Modern.step_eq_move d ?_
    cases hclosing : (Modern.classify m text).isClosing with
    | false => rfl
    | true => exact absurd h (by simp [ends, push, hclosing])
  | legacy m seen d =>
    cases hend : (Legacy.classify m text).isEnd seen with
    | true => exact absurd h (by simp [ends, Legacy.push_of_end hend])
    | false =>
      rw [(Legacy.push_of_open hend).1]
      exact Legacy.step_eq_move d hend

/-- A line that ends the prologue adds nothing to its sections, and its move begins no block. -/
theorem sections_of_ends (h : r.ends t = true) :
    (r.turn t).result.sections = r.result.sections ∧
      (Turn.move r.convention r.marker t = .ends ∨ Turn.move r.convention r.marker t = .rests) := by
  cases t with
  | settle => exact absurd h Bool.false_ne_true
  | line text =>
    cases r with
    | modern m d =>
      cases hkind : Modern.classify m text with
      | closing comment =>
        refine ⟨?_, Or.inl ?_⟩
        · show (Modern.step d (Modern.classify m text)).settle.prologue.sections = _
          rw [hkind, Modern.step, Draft.settle_settle]
          exact Draft.sections_settle_congr rfl rfl rfl rfl
        · show (Modern.classify m text).move = _
          rw [hkind]
          rfl
      | separator => exact absurd h (by simp [ends, push, hkind, Modern.Line.isClosing])
      | unmarked text => exact absurd h (by simp [ends, push, hkind, Modern.Line.isClosing])
      | heading name => exact absurd h (by simp [ends, push, hkind, Modern.Line.isClosing])
      | content text => exact absurd h (by simp [ends, push, hkind, Modern.Line.isClosing])
    | legacy m seen d =>
      have hend : (Legacy.classify m text).isEnd seen = true := by
        by_contra hopen
        rw [Bool.not_eq_true] at hopen
        exact absurd h (by simp [ends, (Legacy.push_of_open hopen).2])
      constructor
      · have hsettled : ((legacy m seen d).push text).1 = .legacy m seen d.settle := by
          rw [push]
          simp only [hend, if_true]
        show ((legacy m seen d).push text).1.result.sections = _
        rw [hsettled]
        exact congrArg (·.prologue.sections) d.settle_settle
      · show (Legacy.classify m text).move = _ ∨ (Legacy.classify m text).move = _
        cases hkind : Legacy.classify m text with
        | closing => exact Or.inl rfl
        | declaration => exact Or.inl rfl
        | code => exact Or.inr rfl
        | endHistory => exact Or.inr rfl
        | heading name trailing =>
          exact absurd hend (by simp [hkind, Legacy.Line.isEnd])
        | content text => exact absurd hend (by simp [hkind, Legacy.Line.isEnd])

/-- **What has been read after turns.** Settling once more has put the blocks that the turns have
made into the prologue, each of them once, whenever it was settled before. -/
theorem sections_turns {held : Option (Text × List Text)} (hr : r.draft.Holds held)
    (horderly : r.orderly ts = true) : (r.turns ts).result.sections =
      (r.draft.prologue.appendAll (r.draft.blocks ++
        kept (Move.blocks held (ts.map (Turn.move r.convention r.marker))))).sections := by
  have hresult : ∀ {r : Reader}, r.result = r.draft.settle.prologue := by
    intro r
    cases r <;> rfl
  have hend : ∀ {r : Reader} {held : Option (Text × List Text)}, r.draft.Holds held →
      r.result = r.draft.prologue.appendAll (r.draft.blocks ++ kept held.toList) := by
    intro r held hr
    rw [hresult, Draft.settle_prologue, hr.close_blocks]
  induction ts generalizing r held with
  | nil => exact congrArg Prologue.sections (hend hr)
  | cons t ts ih =>
    rw [orderly] at horderly
    rw [List.map_cons, Move.blocks]
    split at horderly
    · next hends =>
      -- only settlings follow, which find nothing more to put into the prologue
      obtain ⟨hsections, hmove⟩ := sections_of_ends hends
      have hsettlings : ts = List.replicate ts.length .settle :=
        List.eq_replicate_of_mem fun x hx => beq_iff_eq.1 (List.all_eq_true.1 horderly x hx)
      have hblocks : (Turn.move r.convention r.marker t).closed held ++
          Move.blocks ((Turn.move r.convention r.marker t).next held)
            (ts.map (Turn.move r.convention r.marker)) = held.toList := by
        rw [hsettlings, List.map_replicate]
        show _ ++ Move.blocks _ (List.replicate ts.length .ends) = _
        rw [Move.blocks_replicate_ends]
        rcases hmove with hmove | hmove
        · rw [hmove]
          exact List.append_nil _
        · rw [hmove]
          rfl
      show ((r.turn t).turns ts).result.sections = _
      rw [result_settlings horderly, hsections, hblocks, hend hr]
    · next hgoes =>
      rw [Bool.not_eq_true] at hgoes
      have hih := fun {held} (hheld : (r.turn t).draft.Holds held) => ih hheld horderly
      rw [(turn_kind r t).1, (turn_kind r t).2] at hih
      show ((r.turn t).turns ts).result.sections = _
      rw [kept_append, ← List.append_assoc]
      cases t with
      | settle =>
        -- the blocks closed so far are in the prologue, and those to come are added behind them
        have hdraft : (r.turn .settle).draft = r.draft.settle := by cases r <;> rfl
        have hholds : (r.turn .settle).draft.Holds none := by
          rw [hdraft]
          exact hr.close
        rw [hih hholds, hdraft, Prologue.appendAll_append, Draft.settle_prologue, hr.close_blocks,
          ← Prologue.appendAll_append, ← Prologue.appendAll_append]
        rfl
      | line text =>
        have hdraft : (r.turn (.line text)).draft = _ := draft_push hgoes
        obtain ⟨hholds, hblocks⟩ := hr.move (Turn.move r.convention r.marker (.line text))
        rw [← hdraft] at hholds hblocks
        rw [hih hholds, hblocks, hdraft, Draft.prologue_move]

end Reader

/-! ### Settling and empty lines -/

namespace Modern

variable {d e : Draft}

theorem alike_step (h : d.Alike e) (kind : Line) : (step d kind).Alike (step e kind) := by
  cases hclosing : kind.isClosing with
  | false =>
    rw [step_eq_move d hclosing, step_eq_move e hclosing]
    exact h.move kind.move
  | true =>
    cases kind with
    | closing comment => exact Draft.Alike.of_eq (h.closing comment).settle
    | separator => exact Bool.noConfusion hclosing
    | unmarked text => exact Bool.noConfusion hclosing
    | heading name => exact Bool.noConfusion hclosing
    | content text => exact Bool.noConfusion hclosing

/-- **Alike drafts stay alike.** -/
theorem alike_turns (h : d.Alike e) (m : Marker) (ts : List Turn) : ∃ d' e', d'.Alike e' ∧
    (Reader.modern m d).turns ts = .modern m d' ∧ (Reader.modern m e).turns ts = .modern m e' := by
  induction ts generalizing d e with
  | nil => exact ⟨d, e, h, rfl, rfl⟩
  | cons t ts ih =>
    cases t with
    | settle => exact ih (Draft.Alike.of_eq h.settle)
    | line text => exact ih (alike_step h (classify m text))

/-- Readers whose drafts are alike return the same of a line. -/
theorem push_of_alike (h : d.Alike e) (m : Marker) (line : Text) :
    ((Reader.modern m d).push line).2 = ((Reader.modern m e).push line).2 := by
  have hprologue : (classify m line).isClosing = true →
      (step d (classify m line)).prologue = (step e (classify m line)).prologue := by
    intro hclosing
    cases hkind : classify m line with
    | closing comment => exact congrArg Draft.prologue (h.closing comment).settle
    | separator => exact Bool.noConfusion (hkind ▸ hclosing)
    | unmarked text => exact Bool.noConfusion (hkind ▸ hclosing)
    | heading name => exact Bool.noConfusion (hkind ▸ hclosing)
    | content text => exact Bool.noConfusion (hkind ▸ hclosing)
  rw [Reader.push, Reader.push]
  cases hclosing : (classify m line).isClosing with
  | false => rfl
  | true => simp [hprologue hclosing]

/-- **Settling and an empty line lead to the same.** -/
theorem parts_alike (d : Draft) (m : Marker) (ks ls : List Turn) {empty : Text}
    (hempty : empty.isBlank = true) : ∃ d' e', d'.Alike e' ∧
      (Reader.modern m d).turns (ks ++ .settle :: ls) = .modern m d' ∧
      (Reader.modern m d).turns (ks ++ .line empty :: ls) = .modern m e' := by
  have hseparator : classify m empty = .separator := by
    rw [classify, Text.trimStart_eq_nil_iff.2 hempty]
  obtain ⟨e, -, -, hks, -⟩ := alike_turns (.of_eq (rfl : d = d)) m ks
  have hparted : ((Reader.modern m e).push empty).1 = .modern m (e.move .ends) := by
    rw [Reader.push, hseparator]
    rfl
  obtain ⟨d', e', halike, hd', he'⟩ := alike_turns e.alike_settle m ls
  refine ⟨d', e', halike, ?_, ?_⟩
  · rw [Reader.turns_append, hks]
    exact hd'
  · rw [Reader.turns_append, hks]
    show ((Reader.modern m e).push empty).1.turns ls = _
    rw [hparted]
    exact he'

end Modern

/-! ### Workers -/

namespace Worker

/-- A worker after a turn; a line that it refuses changes nothing. -/
def turn (w : Worker) : Turn → Worker
  | .line text =>
    match w.push text with
    | .ok (next, _) => next
    | .error _ => w
  | .settle => w.settle

/-- A worker of a convention after turns. -/
def after (style : Style) (ts : List Turn) : Worker := ts.foldl turn { style }

/-- The **blocks** that turns make in the prologue that a line opens in a convention. The name in
the start line of a legacy prologue counts as one, and the purpose begins another. -/
def blocks (style : Style) (start : Text) (ts : List Turn) : List (Text × List Text) :=
  match style with
  | .modern =>
    match Modern.opening? start with
    | some (_, m) => Move.blocks none (ts.map (Turn.move .modern m))
    | none => []
  | .legacy =>
    match Legacy.opening? start with
    | some o => ("Name", [o.name]) ::
        Move.blocks (some ("Purpose", [o.purpose])) (ts.map (Turn.move .legacy o.marker))
    | none => []

variable {style : Style} {start : Text} {r : Reader}

theorem style_foldl (w : Worker) (ts : List Turn) : (ts.foldl turn w).style = w.style := by
  induction ts generalizing w with
  | nil => rfl
  | cons t ts ih =>
    rw [List.foldl_cons, ih]
    cases t with
    | settle => rfl
    | line text =>
      rw [turn, push]
      cases w.reader with
      | some r => rfl
      | none => cases Reader.openAs? w.style text <;> rfl

theorem foldl_of_reader (style : Style) (r : Reader) (ts : List Turn) :
    ts.foldl turn ⟨style, some r⟩ = ⟨style, some (r.turns ts)⟩ := by
  induction ts generalizing r with
  | nil => rfl
  | cons t ts ih =>
    have hturn : turn ⟨style, some r⟩ t = ⟨style, some (r.turn t)⟩ := by cases t <;> rfl
    rw [List.foldl_cons, hturn, ih]
    rfl

/-- A worker that has waited for a start line reads on from there. -/
theorem after_start {before : List Turn} (hbefore : (after style before).reader = none)
    (hstart : Reader.openAs? style start = some r) (ts : List Turn) :
    after style (before ++ .line start :: ts) = ⟨style, some (r.turns ts)⟩ := by
  have hwaiting : after style before = ⟨style, none⟩ :=
    congrArg₂ Worker.mk (style_foldl { style } before) hbefore
  have hopened : turn ⟨style, none⟩ (.line start) = ⟨style, some r⟩ := by
    rw [turn, push]
    simp only [hstart]
  rw [after, List.foldl_append, List.foldl_cons, ← after, hwaiting, hopened, foldl_of_reader]

/-- **The blocks that turns have made** are what a settled prologue holds. -/
theorem find_turns (hstart : Reader.openAs? style start = some r) {ts : List Turn}
    (horderly : r.orderly ts = true) (key : Text) : (r.turns ts).result.sections.find key =
      (gathered Legacy.storedName (blocks style start ts) key).map Text.chomp := by
  cases style with
  | modern =>
    obtain ⟨⟨comment, m⟩, hopening, rfl⟩ := Option.map_eq_some_iff.1 hstart
    have hholds : (Reader.modern m (Modern.openDraft comment m)).draft.Holds none := ⟨rfl, rfl⟩
    have hseeds : ∀ key, (Modern.openDraft comment m).prologue.sections.find key =
        (gathered Legacy.storedName [] key).map Text.chomp := fun key => rfl
    rw [Reader.sections_turns hholds horderly, blocks]
    simp only [hopening]
    exact Prologue.find_appendAll_kept hseeds _ key
  | legacy =>
    obtain ⟨o, hopening, rfl⟩ := Option.map_eq_some_iff.1 hstart
    have hholds : (Reader.legacy o.marker false (Legacy.openDraft o)).draft.Holds
        (some ("Purpose", [o.purpose])) := ⟨rfl, rfl⟩
    have hname : trimBlankEdges [o.name] = [o.name] :=
      trimBlankEdges_of_trimmed (trimmed_singleton (Legacy.isStored_of_opening? hopening).2.2.1)
    have hseeds : ∀ key, (Legacy.openDraft o).prologue.sections.find key =
        (gathered Legacy.storedName [("Name", [o.name])] key).map Text.chomp := by
      intro key
      rw [Legacy.find_openDraft hopening, gathered, List.filter_cons]
      simp only [Legacy.storedName_opening.1, decide_eq_true_eq, eq_comm (a := key)]
      split
      · simp [joined, hname, (Legacy.isStored_of_opening? hopening).1.chomp]
      · rfl
    rw [Reader.sections_turns hholds horderly, blocks]
    simp only [hopening]
    exact Prologue.find_appendAll_kept hseeds _ key

/-- In a legacy prologue all names are settled, since headings give canonical forms. -/
theorem isSettled_of_mem_blocks {ts : List Turn} {b : Text × List Text}
    (h : b ∈ blocks .legacy start ts) : IsSettled b.1 := by
  rw [blocks] at h
  split at h
  · next o hopening =>
    have htitle : IsSettled "Name" ∧ IsSettled "Purpose" := by decide +kernel
    rcases List.mem_cons.1 h with rfl | h
    · exact htitle.1
    · rcases Move.name_of_mem_blocks h with ⟨ls, hpurpose⟩ | ⟨first, hbegins⟩
      · rw [← (Prod.mk.inj (Option.some.inj hpurpose)).1]
        exact htitle.2
      · obtain ⟨t, -, hmove⟩ := List.mem_map.1 hbegins
        cases t with
        | settle => exact Move.noConfusion hmove
        | line text => exact Legacy.isSettled_of_move hmove
  · exact absurd h List.not_mem_nil

end Worker

/-! ### Scanners -/

/-- A reader whose prologue has its marker, and in which no C comment has been closed. -/
def Reader.Unclosed (r : Reader) : Prop :=
  r.draft.prologue.commentChar = [r.marker.glyph] ∧
    (r.convention = .modern → r.draft.prologue.closesComment = false)

theorem Reader.unclosed_of_open? {r : Reader} {line : Text} (h : open? line = some r) :
    r.Unclosed := by
  obtain ⟨style, hstyle⟩ := exists_openAs? h
  cases style with
  | modern =>
    obtain ⟨⟨comment, m⟩, -, rfl⟩ := Option.map_eq_some_iff.1 hstyle
    exact ⟨rfl, fun _ => rfl⟩
  | legacy =>
    obtain ⟨o, -, rfl⟩ := Option.map_eq_some_iff.1 hstyle
    exact ⟨rfl, fun h => Style.noConfusion h⟩

theorem Reader.unclosed_push {r : Reader} {line : Text} (h : r.Unclosed)
    (hopen : (r.push line).2.prologue = none) : (r.push line).1.Unclosed := by
  have hgoes : r.ends (.line line) = false := by rw [ends, hopen]; rfl
  have hkind := r.turn_kind (.line line)
  rw [turn] at hkind
  rw [Unclosed, draft_push hgoes, Draft.prologue_move, hkind.1, hkind.2]
  exact h

/-- The end marker alone on its line completes the prologue as far as it has been read. -/
theorem Reader.push_closing {r : Reader} (h : r.Unclosed) :
    (r.push [r.marker.glyph, .char '-']).2 = { prologue := some r.result } := by
  cases r with
  | modern m d =>
    have hflag : { d.prologue with closesComment := false } = d.prologue := by
      rw [← h.2 rfl]
      rfl
    rw [marker, push, Modern.classify_closing, Modern.step, hflag]
    rfl
  | legacy m seen d =>
    have hkind : Legacy.classify m [m.glyph, .char '-'] = .closing := by cases m <;> decide +kernel
    rw [marker, Legacy.push_of_end (by rw [hkind]; rfl), hkind]
    rfl

namespace Scanner

theorem unclosed_afterCalls (cs : List Call) :
    ∀ r, (afterCalls {} cs).reader = some r → r.Unclosed := by
  induction cs using List.reverseRecOn with
  | nil => exact fun r hr => absurd hr (by simp [afterCalls])
  | append_singleton cs c ih =>
    rw [afterCalls_concat]
    cases c with
    | flush => exact fun r hr => absurd hr (by simp [call])
    | line text =>
      exact reader_push_of_open (fun r _ hopened => Reader.unclosed_of_open? hopened)
        fun r hr hopen => Reader.unclosed_push (ih r hr) hopen

/-- **Asking for the prologue is giving an end marker.** -/
theorem push_of_flush {cs : List Call} {p : Prologue} (hp : (afterCalls {} cs).flush = some p) :
    (afterCalls {} cs).push (p.commentChar ++ Text.ofString "-") = ({}, { prologue := some p }) := by
  obtain ⟨r, hr, rfl⟩ := Option.map_eq_some_iff.1 hp
  have hunclosed := unclosed_afterCalls cs r hr
  have hresult : r.result = r.draft.settle.prologue := by cases r <;> rfl
  have hchar : r.result.commentChar = [r.marker.glyph] := by
    rw [hresult, Draft.settle_prologue, Prologue.appendAll_eq]
    exact hunclosed.1
  have hline : Text.chomp ([r.marker.glyph] ++ Text.ofString "-") = [r.marker.glyph, .char '-'] := by
    cases r.marker <;> decide
  rw [push_of_inside hr, hchar, hline, Reader.push_closing hunclosed]
  rfl

end Scanner

/-! ### Documents -/

namespace Worker

/-- **The prologue that a worker gives whenever it is asked.** Let a worker of either convention
wait for a start line and then take lines and settle in any order, but take no line behind one that
has ended the prologue. Each section of the prologue holds the blocks stored for it, in order,
without blank edges and line ends and without blank blocks, an empty line between each two; the name
in the start line comes first. These are the blocks begun under its name just in case the names of
blocks that are not blank are settled, as all names in legacy prologues are. Asking once more changes
nothing. In a modern prologue, settling anywhere leads to the same as an empty line there. And a
scanner, behind any calls, gives the prologue that it is in as an end marker would. -/
theorem settled_document (style : Style) (before ts : List Turn) (start : Text) (r : Reader)
    (hbefore : (after style before).reader = none)
    (hstart : Reader.openAs? style start = some r) (horderly : r.orderly ts = true) :
    let w := after style (before ++ .line start :: ts)
    let bs := blocks style start ts
    (∀ key, w.result.sections.find key = (gathered Legacy.storedName bs key).map Text.chomp) ∧
      ((∀ key, w.result.sections.find key = (gathered canonical bs key).map Text.chomp) ↔
        ∀ b ∈ bs, trimBlankEdges b.2 ≠ [] → IsSettled b.1) ∧
      (style = .legacy → ∀ b ∈ bs, IsSettled b.1) ∧
      (w.settle.result = w.result ∧ w.settle.settle = w.settle) ∧
      (style = .modern → ∀ (ks ls : List Turn) (empty : Text), empty.isBlank = true →
        let settled := after style (before ++ .line start :: (ks ++ .settle :: ls))
        let parted := after style (before ++ .line start :: (ks ++ .line empty :: ls))
        settled.result = parted.result ∧
          ∀ line, (settled.push line).map (·.2) = (parted.push line).map (·.2)) ∧
      ∀ (cs : List Scanner.Call) (p : Prologue), (Scanner.afterCalls {} cs).flush = some p →
        (Scanner.afterCalls {} cs).push (p.commentChar ++ Text.ofString "-") =
          ({}, { prologue := some p }) := by
  intro w bs
  have hw : w = ⟨style, some (r.turns ts)⟩ := after_start hbefore hstart ts
  have hfind : ∀ key, w.result.sections.find key =
      (gathered Legacy.storedName bs key).map Text.chomp := by
    rw [hw]
    exact find_turns hstart horderly
  refine ⟨hfind, ?_, ?_, ?_, ?_, fun cs p => Scanner.push_of_flush⟩
  · rw [← gathered_eq_iff]
    exact forall_congr' fun key => by rw [hfind]
  · rintro rfl b hb
    exact isSettled_of_mem_blocks hb
  · rw [hw]
    exact ⟨Reader.result_settle _, congrArg (fun r => Worker.mk style (some r)) (Reader.settle_settle _)⟩
  · rintro rfl ks ls empty hempty settled parted
    obtain ⟨⟨comment, m⟩, -, rfl⟩ := Option.map_eq_some_iff.1 hstart
    obtain ⟨d, e, halike, hsettled, hparted⟩ :=
      Modern.parts_alike (Modern.openDraft comment m) m ks ls hempty
    have hleft : settled = ⟨.modern, some (.modern m d)⟩ := by
      rw [← hsettled]
      exact after_start hbefore hstart _
    have hright : parted = ⟨.modern, some (.modern m e)⟩ := by
      rw [← hparted]
      exact after_start hbefore hstart _
    rw [hleft, hright]
    refine ⟨congrArg Draft.prologue halike.settle, fun line => ?_⟩
    exact congrArg Except.ok (Modern.push_of_alike halike m line)

/-- A section in two parts, between which the worker settles and has to do with a line outside of
sections. -/
theorem settled_document_notes :
    let ts : List Turn := [.line "*  Notes:", .line "*     one\n", .line "*", .settle,
      .line "*     lost", .line "  *  notes:", .line "*     two", .line "*- */", .settle]
    let w := after .modern ([.settle, .line "C"] ++ .line "/*+" :: ts)
    w.result.sections.find "Notes" = (["one", [], "two"] : List Text) ∧
      w.settle.result = w.result ∧
      w.result = (after .modern ([.settle, .line "C"] ++ .line "/*+" :: ([.line "*  Notes:",
        .line "*     one\n", .line "*"] ++ .line " " :: [.line "*     lost", .line "  *  notes:",
        .line "*     two", .line "*- */", .settle]))).result := by
  intro ts w
  have hstart : Reader.openAs? .modern "/*+" =
      some (.modern .star (Modern.openDraft true .star)) := by
    rw [Reader.openAs?, show Modern.opening? "/*+" = some (true, .star) by decide +kernel]
    rfl
  obtain ⟨hstored, -, -, hagain, hparted, -⟩ := settled_document .modern [.settle, .line "C"] ts
    "/*+" (.modern .star (Modern.openDraft true .star)) (by decide +kernel) hstart (by decide +kernel)
  refine ⟨?_, hagain.1, (hparted rfl [.line "*  Notes:", .line "*     one\n", .line "*"]
    [.line "*     lost", .line "  *  notes:", .line "*     two", .line "*- */", .settle] " "
    (by decide)).1⟩
  rw [hstored]
  decide +kernel

/-- Two blocks of different names, of which the first is not settled, end up in one section. -/
theorem blocks_stored_elsewhere :
    let ts : List Turn := [.line "*  A ŉ:", .line "*     one", .line "*  A ʼn:", .line "*     two"]
    let w := after .modern (.line "*+" :: ts)
    blocks .modern "*+" ts =
        ([("A ŉ", ["one"]), ("A ʼn", ["two"])] : List (Text × List Text)) ∧
      canonical "A ŉ" = "A ʼN" ∧
      gathered canonical (blocks .modern "*+" ts) "A ʼN" = (["one"] : List Text) ∧
      w.result.sections.find "A ʼN" = [] ∧
      w.result.sections.find "A ʼn" = (["one", [], "two"] : List Text) := by
  decide +kernel

end Worker

end SourcePrologue

import SourcePrologue.Proofs.Source.Settling

/-!
# Reading refuses no name

Reading stores lines under the canonical forms of names. A name that is asked for by a caller may be
refused; here the same is allowed for every name that comes up in reading, and it never happens.

* **`Reader.pushChecked`**, **`Worker.turnChecked`** — reading in which every name is normalised
  where it is used, and a refusal is passed on;
* **`Draft.Named`** — the invariant: no name in a draft is blank;
* **`Reader.pushChecked_eq`**, **`Worker.foldlM_of_openAs?`** — reading in this way gives what
  reading gives, whatever the lines are.
-/

namespace SourcePrologue

open SectionName

/-! ### Reading that may be refused -/

/-- Adds lines to a section, unless its name is refused. -/
def Prologue.appendChecked (p : Prologue) (name : Text) (ls : List Text) :
    Except Refusal Prologue :=
  (normalize (some name)).map fun key =>
    let held := Body.extend (p.sections.find key) ls
    { p with sections := p.sections.set key (held.map Text.chomp) }

namespace Draft

/-- Opens a block, unless its name is refused. -/
def startChecked (d : Draft) (name : Text) : Except Refusal Draft :=
  (normalize (some name)).map fun key => { d.close with heading := some key }

/-- Puts everything read into the prologue, unless one of the names is refused. -/
def settleChecked (d : Draft) : Except Refusal Draft :=
  (d.close.blocks.foldlM (fun (p : Prologue) b => p.appendChecked b.1 b.2) d.close.prologue).map
    fun p => { d.close with prologue := p, blocks := [] }

end Draft

/-- The draft after a line of the modern convention, unless a name is refused. -/
def Modern.stepChecked (d : Draft) : Modern.Line → Except Refusal Draft
  | .closing comment =>
    { d with prologue := { d.prologue with closesComment := comment } }.settleChecked
  | .heading name => d.startChecked name
  | kind => .ok (step d kind)

namespace Legacy

/-- The canonical form of the name in a heading, unless it is refused. -/
def headingChecked (m : Marker) (line : Text) : Except Refusal (Option Text) :=
  match headingName? m line with
  | some name => (normalize (some name)).map some
  | none => .ok none

/-- The draft after a line that does not end the prologue, unless a name is refused. -/
def stepChecked (d : Draft) : Line → Except Refusal Draft
  | .heading name trailing =>
    (d.startChecked name).map fun d => if trailing.isEmpty then d else d.add trailing
  | kind => .ok (step d kind)

/-- The draft at a start line, unless a name is refused. -/
def openChecked (o : Opening) : Except Refusal Draft :=
  let p : Prologue := { style := some .legacy, commentChar := [o.marker.glyph] }
  (p.appendChecked "Name" [o.name]).bind fun p =>
    (Draft.startChecked { prologue := p } "Purpose").map fun d => d.add o.purpose

end Legacy

namespace Reader

/-- The reader of the prologue that a line opens in a convention, unless a name is refused. -/
def openChecked? : Style → Text → Option (Except Refusal Reader)
  | .modern, line => (openAs? .modern line).map .ok
  | .legacy, line => (Legacy.opening? line).map fun o =>
      (Legacy.openChecked o).map (legacy o.marker false)

/-- The reader after a line and what comes of the line, unless a name is refused. -/
def pushChecked (r : Reader) (line : Text) : Except Refusal (Reader × Emission) :=
  match r with
  | modern m d =>
    let kind := Modern.classify m line
    (Modern.stepChecked d kind).map fun d =>
      (modern m d, { prologue := if kind.isClosing then some d.prologue else none })
  | legacy m seen d =>
    let kind := Legacy.classify m line
    let passed := if kind.isPassed then some line else none
    (Legacy.headingChecked m line).bind fun _ =>
      if kind.isEnd seen then
        d.settleChecked.map fun d =>
          (legacy m seen d, { line := passed, prologue := some d.prologue })
      else
        (Legacy.stepChecked d kind).map fun d =>
          (legacy m (seen || kind.isHeading) d, { line := passed })

/-- The reader with everything read put into the prologue, unless a name is refused. -/
def settleChecked : Reader → Except Refusal Reader
  | modern m d => d.settleChecked.map (modern m)
  | legacy m seen d => d.settleChecked.map (legacy m seen)

end Reader

/-! ### Names in drafts -/

theorem Prologue.appendChecked_eq (p : Prologue) {name : Text} (h : name.isBlank = false)
    (ls : List Text) : p.appendChecked name ls = .ok (p.append name ls) := by
  rw [appendChecked, normalize_eq h]
  rfl

theorem Prologue.foldlM_appendChecked {bs : List (Text × List Text)}
    (hbs : ∀ b ∈ bs, b.1.isBlank = false) (p : Prologue) :
    bs.foldlM (fun (p : Prologue) b => p.appendChecked b.1 b.2) p = .ok (p.appendAll bs) := by
  induction bs generalizing p with
  | nil => rfl
  | cons b bs ih =>
    obtain ⟨hb, hothers⟩ := List.forall_mem_cons.1 hbs
    rw [List.foldlM_cons, appendChecked_eq p hb]
    exact ih hothers (p.append b.1 b.2)

namespace Draft

/-- A draft whose names are **not blank**. -/
structure Named (d : Draft) : Prop where
  heading : ∀ name, d.heading = some name → name.isBlank = false
  blocks : ∀ b ∈ d.blocks, b.1.isBlank = false

variable {d : Draft}

/-- A draft in which nothing has been read yet. -/
theorem named_of_prologue (p : Prologue) : Named { prologue := p } := by
  constructor
  · intro name hname
    exact absurd hname (by simp)
  · intro b hb
    exact absurd hb List.not_mem_nil

theorem Named.close (h : d.Named) : d.close.Named := by
  cases hheading : d.heading with
  | none =>
    rw [close_of_heading hheading]
    exact h
  | some name =>
    rw [Draft.close, hheading]
    constructor
    · intro other hother
      exact absurd hother (by simp)
    · show ∀ b ∈ (if (Body.trimBlankEdges d.block).isEmpty then d.blocks
        else d.blocks ++ [(name, Body.trimBlankEdges d.block)]), b.1.isBlank = false
      split
      · exact h.blocks
      · intro b hb
        rcases List.mem_append.1 hb with hb | hb
        · exact h.blocks b hb
        · rw [List.mem_singleton.1 hb]
          exact h.heading name hheading

theorem Named.start (h : d.Named) {name : Text} (hname : name.isBlank = false) :
    (d.start name).Named := by
  refine ⟨?_, h.close.blocks⟩
  intro other hother
  rw [← Option.some.inj hother]
  exact isBlank_canonical hname

theorem Named.add (h : d.Named) (line : Text) : (d.add line).Named := ⟨h.heading, h.blocks⟩

theorem Named.settle (h : d.Named) : d.settle.Named := by
  refine ⟨h.close.heading, ?_⟩
  intro b hb
  exact absurd hb List.not_mem_nil

theorem startChecked_eq (d : Draft) {name : Text} (h : name.isBlank = false) :
    d.startChecked name = .ok (d.start name) := by
  rw [startChecked, normalize_eq h]
  rfl

theorem settleChecked_eq (h : d.Named) : d.settleChecked = .ok d.settle := by
  rw [settleChecked, Prologue.foldlM_appendChecked h.close.blocks]
  rfl

end Draft

/-! ### Names in lines -/

namespace Modern

variable {d : Draft} {m : Marker} {line : Text}

theorem isBlank_of_classify {name : Text} (h : classify m line = .heading name) :
    name.isBlank = false := by
  rcases classify_cases m line with hkind | ⟨comment, hkind⟩ | ⟨found, hkind, hname⟩ |
    ⟨t, -, hkind⟩ | ⟨g, rest, hkind, -⟩
  · exact Line.noConfusion (hkind.symm.trans h)
  · exact Line.noConfusion (hkind.symm.trans h)
  · rw [hkind, Line.heading.injEq] at h
    rw [← h]
    exact Heading.isBlank_of_isName hname
  · exact Line.noConfusion (hkind.symm.trans h)
  · exact Line.noConfusion (hkind.symm.trans h)

theorem stepChecked_eq (h : d.Named) (m : Marker) (line : Text) :
    stepChecked d (classify m line) =
      .ok (step d (classify m line)) ∧ (step d (classify m line)).Named := by
  have hkeep : ∀ text, (keep d text).Named := by
    intro text
    rw [keep]
    split
    · exact h.add text
    · exact h
  cases hkind : classify m line with
  | separator => exact ⟨rfl, h.close⟩
  | unmarked text => exact ⟨rfl, hkeep text⟩
  | closing comment =>
    have hdraft : Draft.Named
        { d with prologue := { d.prologue with closesComment := comment } } := ⟨h.heading, h.blocks⟩
    exact ⟨Draft.settleChecked_eq hdraft, hdraft.settle⟩
  | heading name =>
    have hname := isBlank_of_classify hkind
    exact ⟨d.startChecked_eq hname, h.start hname⟩
  | content text => exact ⟨rfl, hkeep text⟩

theorem named_openDraft (comment : Bool) (m : Marker) : (openDraft comment m).Named :=
  Draft.named_of_prologue (openDraft comment m).prologue

end Modern

namespace Legacy

variable {d : Draft} {m : Marker} {line : Text}

theorem isBlank_of_headingName? {name : Text} (h : headingName? m line = some name) :
    name.isBlank = false := by
  cases line with
  | nil => exact absurd h (by simp [headingName?])
  | cons g rest =>
    rw [headingName?] at h
    split at h
    · obtain ⟨heading, -, h⟩ := Option.bind_eq_some_iff.1 h
      obtain ⟨⟨raw, tail⟩, hsplit, rfl⟩ := Option.map_eq_some_iff.1 h
      exact Heading.isBlank_of_isName (Heading.split?_eq_some hsplit).2.2.1
    · exact absurd h (by simp)

theorem headingChecked_eq (m : Marker) (line : Text) :
    headingChecked m line = .ok ((headingName? m line).map canonical) := by
  rw [headingChecked]
  cases hname : headingName? m line with
  | none => rfl
  | some name =>
    show (normalize (some name)).map some = _
    rw [normalize_eq (isBlank_of_headingName? hname)]
    rfl

/-- A section of a legacy prologue has the canonical form of the name in its heading, or a name
that has replaced this. -/
theorem isBlank_of_classify {name trailing : Text} (h : classify m line = .heading name trailing) :
    name.isBlank = false := by
  have hrenames : ∀ e ∈ renames, e.2.isBlank = false := by decide
  rcases classify_cases m line with hkind | hkind | hkind | hkind |
    ⟨raw, found, tail, -, hraw, -, -, hkind⟩ | ⟨t, -, hkind⟩
  · exact Line.noConfusion (hkind.symm.trans h)
  · exact Line.noConfusion (hkind.symm.trans h)
  · exact Line.noConfusion (hkind.symm.trans h)
  · exact Line.noConfusion (hkind.symm.trans h)
  · rw [hkind, Line.heading.injEq] at h
    rw [← h.1]
    cases hlookup : renames.lookup (canonical raw) with
    | none => exact isBlank_canonical (Heading.isBlank_of_isName hraw)
    | some renamed => exact hrenames _ (mem_of_lookup hlookup)
  · exact Line.noConfusion (hkind.symm.trans h)

theorem stepChecked_eq (h : d.Named) (m : Marker) (line : Text) :
    stepChecked d (classify m line) =
      .ok (step d (classify m line)) ∧ (step d (classify m line)).Named := by
  cases hkind : classify m line with
  | code => exact ⟨rfl, h⟩
  | closing => exact ⟨rfl, h⟩
  | endHistory => exact ⟨rfl, h⟩
  | declaration => exact ⟨rfl, h⟩
  | heading name trailing =>
    have hname := isBlank_of_classify hkind
    have hstart := h.start hname
    rw [stepChecked, d.startChecked_eq hname]
    refine ⟨rfl, ?_⟩
    show (if trailing.isEmpty then d.start name else (d.start name).add trailing).Named
    split
    · exact hstart
    · exact hstart.add trailing
  | content text =>
    refine ⟨rfl, ?_⟩
    show (if d.isOpen then d.add text else d).Named
    split
    · exact h.add text
    · exact h

theorem openChecked_eq (o : Opening) : openChecked o = .ok (openDraft o) := by
  have hname : Text.isBlank (Text.ofString "Name") = false := by decide
  have hpurpose : Text.isBlank (Text.ofString "Purpose") = false := by decide
  have hstart := Draft.startChecked_eq
    { prologue := Prologue.append { style := some .legacy, commentChar := [o.marker.glyph] } "Name"
        [o.name] } hpurpose
  rw [openChecked, Prologue.appendChecked_eq _ hname]
  exact congrArg (Except.map fun d : Draft => d.add o.purpose) hstart

theorem named_openDraft (o : Opening) : (openDraft o).Named := by
  have hpurpose : Text.isBlank (Text.ofString "Purpose") = false := by decide
  exact ((Draft.named_of_prologue _).start hpurpose).add o.purpose

end Legacy

/-! ### Readers -/

namespace Reader

variable {r : Reader} {line : Text}

/-- **A line is read as if names could not be refused.** -/
theorem pushChecked_eq (h : r.draft.Named) (line : Text) :
    r.pushChecked line = .ok (r.push line) ∧ (r.push line).1.draft.Named := by
  cases r with
  | modern m d =>
    have hd : d.Named := h
    obtain ⟨hstep, hnamed⟩ := Modern.stepChecked_eq hd m line
    refine ⟨?_, hnamed⟩
    rw [pushChecked, hstep]
    rfl
  | legacy m seen d =>
    have hd : d.Named := h
    rw [pushChecked, Legacy.headingChecked_eq, push]
    show (if _ then Except.map _ d.settleChecked else _) = _ ∧ _
    by_cases hend : (Legacy.classify m line).isEnd seen = true
    · rw [if_pos hend, if_pos hend, Draft.settleChecked_eq hd]
      exact ⟨rfl, hd.settle⟩
    · obtain ⟨hstep, hnamed⟩ := Legacy.stepChecked_eq hd m line
      rw [if_neg hend, if_neg hend, hstep]
      exact ⟨rfl, hnamed⟩

theorem settleChecked_eq (h : r.draft.Named) :
    r.settleChecked = .ok r.settle ∧ r.settle.draft.Named := by
  cases r with
  | modern m d =>
    have hd : d.Named := h
    rw [settleChecked, Draft.settleChecked_eq hd]
    exact ⟨rfl, hd.settle⟩
  | legacy m seen d =>
    have hd : d.Named := h
    rw [settleChecked, Draft.settleChecked_eq hd]
    exact ⟨rfl, hd.settle⟩

theorem openChecked?_eq (style : Style) (line : Text) :
    openChecked? style line = (openAs? style line).map .ok := by
  cases style with
  | modern => rfl
  | legacy =>
    have hopen : ∀ o, (Legacy.openChecked o).map (legacy o.marker false) =
        .ok (legacy o.marker false (Legacy.openDraft o)) := by
      intro o
      rw [Legacy.openChecked_eq]
      rfl
    rw [openChecked?, openAs?, Option.map_map]
    exact congrArg (Option.map · (Legacy.opening? line)) (funext hopen)

theorem named_of_openAs? {style : Style} (h : openAs? style line = some r) : r.draft.Named := by
  cases style with
  | modern =>
    obtain ⟨⟨comment, m⟩, -, rfl⟩ := Option.map_eq_some_iff.1 h
    exact Modern.named_openDraft comment m
  | legacy =>
    obtain ⟨o, -, rfl⟩ := Option.map_eq_some_iff.1 h
    exact Legacy.named_openDraft o

end Reader

/-! ### Workers -/

namespace Worker

/-- Why a worker may refuse to go on: a line that is no start line, or a name. -/
inductive Failure where
  | start (refusal : NotAStart)
  | name (refusal : Refusal)

/-- The worker after a line and what comes of the line, unless the line or a name is refused. -/
def pushChecked (w : Worker) (line : Text) : Except Failure (Worker × Emission) :=
  match w.reader with
  | some r => ((r.pushChecked line).map fun (r, emission) =>
      ({ w with reader := some r }, emission)).mapError .name
  | none =>
    match Reader.openChecked? w.style line with
    | some opened => (opened.map fun r => ({ w with reader := some r }, {})).mapError .name
    | none => .error (.start ⟨w.style, line⟩)

/-- The worker after a turn, unless the line or a name is refused. -/
def turnChecked (w : Worker) : Turn → Except Failure Worker
  | .line text => (w.pushChecked text).map (·.1)
  | .settle =>
    match w.reader with
    | some r => (r.settleChecked.map fun r => { w with reader := some r }).mapError .name
    | none => .ok w

/-- **A worker refuses nothing but lines that are no start lines.** -/
theorem pushChecked_eq {w : Worker} (h : ∀ r, w.reader = some r → r.draft.Named) (line : Text) :
    w.pushChecked line = (w.push line).mapError .start := by
  rw [pushChecked, push]
  cases hreader : w.reader with
  | some r =>
    show ((r.pushChecked line).map _).mapError _ = _
    rw [(Reader.pushChecked_eq (h r hreader) line).1]
    rfl
  | none =>
    show (match Reader.openChecked? w.style line with | some opened => _ | none => _) = _
    rw [Reader.openChecked?_eq]
    cases Reader.openAs? w.style line with
    | some r => rfl
    | none => rfl

theorem turnChecked_eq {r : Reader} (h : r.draft.Named) (style : Style) (t : Turn) :
    turnChecked ⟨style, some r⟩ t = .ok ⟨style, some (r.turn t)⟩ ∧ (r.turn t).draft.Named := by
  cases t with
  | line text =>
    have hreader : ∀ s, (⟨style, some r⟩ : Worker).reader = some s → s.draft.Named := by
      intro s hs
      rwa [← Option.some.inj hs]
    rw [turnChecked, pushChecked_eq hreader text]
    exact ⟨rfl, (Reader.pushChecked_eq h text).2⟩
  | settle =>
    obtain ⟨hsettle, hnamed⟩ := Reader.settleChecked_eq h
    refine ⟨?_, hnamed⟩
    show (r.settleChecked.map _).mapError _ = _
    rw [hsettle]
    rfl

/-- A worker that has begun to read refuses nothing any more. -/
theorem foldlM_turnChecked {r : Reader} (h : r.draft.Named) (style : Style) (ts : List Turn) :
    ts.foldlM turnChecked ⟨style, some r⟩ = .ok ⟨style, some (r.turns ts)⟩ := by
  induction ts generalizing r with
  | nil => rfl
  | cons t ts ih =>
    obtain ⟨hturn, hnamed⟩ := turnChecked_eq h style t
    rw [List.foldlM_cons, hturn]
    exact ih hnamed

/-- A worker that is given a start line at once has the reader that the line opens. -/
theorem after_cons_of_openAs? {style : Style} {line : Text} {r : Reader}
    (h : Reader.openAs? style line = some r) (ts : List Turn) :
    after style (.line line :: ts) = ⟨style, some (r.turns ts)⟩ := by
  have hwaiting : (after style []).reader = none := rfl
  exact after_start hwaiting h ts

/-- **From a start line on** a worker reads as if nothing could be refused. -/
theorem foldlM_of_openAs? {style : Style} {line : Text} {r : Reader}
    (h : Reader.openAs? style line = some r) (ts : List Turn) :
    (.line line :: ts).foldlM turnChecked { style } = .ok (after style (.line line :: ts)) := by
  have hreader : ∀ s, ({ style } : Worker).reader = some s → s.draft.Named := by
    intro s hs
    exact absurd hs (by simp)
  have hopened : turnChecked { style } (.line line) = .ok ⟨style, some r⟩ := by
    rw [turnChecked, pushChecked_eq hreader line, push]
    simp only [h]
    rfl
  rw [List.foldlM_cons, hopened, after_cons_of_openAs? h]
  exact foldlM_turnChecked (Reader.named_of_openAs? h) style ts

end Worker

end SourcePrologue

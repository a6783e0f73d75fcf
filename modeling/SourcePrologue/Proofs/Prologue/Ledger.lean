import SourcePrologue.Proofs.Prologue.Completion
import SourcePrologue.Proofs.Source.Calls

/-!
# What the sections of a prologue hold

A prologue is edited and read from by requests, some of which are refused. Whatever a request does
to the sections is a list of **entries**, a name and the lines written under it each, where no lines
stand for a removal. The entries of a run of requests are its **ledger**.

* **`Prologue.sections_request`** — a request does to the sections what its entries say, and
  **`Prologue.sections_requests`**, a run what its ledger says;
* **`Sections.find_enterAll`** — a section holds the lines entered last under its name;
* **`Sections.Normal`** — the invariant: names are the normal forms of themselves, and lines have no
  line ends; requests keep it (**`Prologue.normal_request`**, **`Prologue.normal_requests`**);
* **`Prologue.request_of_error`** — a request that is refused changes nothing;
* **`Prologue.sections_hold_ledger`** — all of this for prologues that begin without a section or
  have been found in a source.
-/

namespace SourcePrologue

open Standard SectionName

/-! ### Entries -/

/-- The lines of the **last** entry under a name. -/
def lastUnder (key : Text) (ws : List (Text × List Text)) : Option (List Text) :=
  (blocksUnder key ws).getLast?

namespace Sections

/-- Sections with the lines of an entry, under the canonical form of its name. -/
def enter (s : Sections) (w : Text × List Text) : Sections :=
  s.set (canonical w.1) (w.2.map Text.chomp)

/-- Sections with entries made one after another. -/
def enterAll (s : Sections) (ws : List (Text × List Text)) : Sections := ws.foldl enter s

variable {s : Sections} {ws : List (Text × List Text)} {key : Text}

theorem enterAll_append (s : Sections) (ws vs : List (Text × List Text)) :
    s.enterAll (ws ++ vs) = (s.enterAll ws).enterAll vs := List.foldl_append

/-- **A section holds the lines entered last under its name**, and what it held before if there are
none. -/
theorem find_enterAll (s : Sections) (ws : List (Text × List Text)) (key : Text) :
    (s.enterAll ws).find key =
      ((lastUnder key ws).map (·.map Text.chomp)).getD (s.find key) := by
  induction ws using List.reverseRecOn with
  | nil => rfl
  | append_singleton ws w ih =>
    rw [enterAll_append, lastUnder, blocksUnder_append]
    show ((s.enterAll ws).set (canonical w.1) (w.2.map Text.chomp)).find key = _
    rw [find_set, ih, lastUnder]
    by_cases hkey : key = canonical w.1
    · have hlast : blocksUnder key [w] = [w.2] := by simp [blocksUnder, hkey]
      rw [if_pos hkey, hlast, List.getLast?_concat]
      rfl
    · have hnone : blocksUnder key [w] = [] := by simp [blocksUnder, Ne.symm hkey]
      rw [if_neg hkey, hnone, List.append_nil]

end Sections

/-! ### Normal sections -/

/-- A name that can be normalised is not blank. -/
theorem SectionName.normalize_eq_ok_iff {t name : Text} :
    normalize (some t) = .ok name ↔ t.isBlank = false ∧ canonical t = name := by
  cases hblank : t.isBlank with
  | false =>
    rw [normalize_eq hblank, Except.ok.injEq]
    simp
  | true =>
    rw [normalize, require, hblank]
    simp [Except.map]

/-- A name is **fit** for an entry if it is not blank and its canonical form is the canonical form of
itself. -/
def SectionName.IsFit (name : Text) : Prop := name.isBlank = false ∧ IsSettled name

theorem SectionName.IsFit.normalize {name : Text} (h : IsFit name) :
    normalize (some (canonical name)) = .ok (canonical name) :=
  normalize_eq_ok_iff.2 ⟨isBlank_canonical h.1, canonical_canonical_iff.2 h.2⟩

namespace Sections

/-- **Normal** sections: every name is the normal form of itself, and no line has a line end. -/
structure Normal (s : Sections) : Prop where
  names : ∀ name ∈ s.names, normalize (some name) = .ok name
  lines : ∀ name, ∀ line ∈ s.find name, line.chomp = line

variable {s : Sections} {ws : List (Text × List Text)} {name : Text}

theorem normal_empty : empty.Normal := by
  constructor
  · intro name hname
    exact absurd hname List.not_mem_nil
  · intro name line hline
    exact absurd hline List.not_mem_nil

theorem Normal.canonical (h : s.Normal) (hname : s.find name ≠ []) : canonical name = name :=
  (normalize_eq_ok_iff.1 (h.names name (mem_names_iff.2 hname))).2

/-- **An entry keeps sections normal.** -/
theorem Normal.enter (h : s.Normal) {w : Text × List Text} (hw : IsFit w.1) :
    (s.enter w).Normal := by
  constructor
  · intro name hname
    rw [mem_names_iff, Sections.enter, find_set] at hname
    split at hname
    · next heq =>
      rw [heq]
      exact hw.normalize
    · exact h.names name (mem_names_iff.2 hname)
  · intro name line hline
    rw [Sections.enter, find_set] at hline
    split at hline
    · obtain ⟨given, -, rfl⟩ := List.mem_map.1 hline
      exact Text.chomp_chomp given
    · exact h.lines name line hline

theorem Normal.enterAll (h : s.Normal) (hws : ∀ w ∈ ws, IsFit w.1) : (s.enterAll ws).Normal := by
  induction ws generalizing s with
  | nil => exact h
  | cons w ws ih =>
    obtain ⟨hw, hothers⟩ := List.forall_mem_cons.1 hws
    exact ih (h.enter hw) hothers

/-- Normal sections are what is made of their own entries. -/
theorem Normal.enterAll_entries (h : s.Normal) : empty.enterAll s.entries = s := by
  apply eq_of_find
  intro key
  rw [find_enterAll]
  cases hlast : lastUnder key s.entries with
  | none =>
    -- no section has this name
    symm
    by_contra hne
    have hentry := mem_entries_of_find hne
    have hmem : s.find key ∈ blocksUnder key s.entries :=
      List.mem_map.2 ⟨_, List.mem_filter.2 ⟨hentry, by simpa using h.canonical hne⟩, rfl⟩
    rw [List.getLast?_eq_none_iff.1 hlast] at hmem
    exact List.not_mem_nil hmem
  | some ls =>
    obtain ⟨e, he, hkey, rfl⟩ := mem_of_mem_blocksUnder (List.mem_of_getLast? hlast)
    have hfind := find_of_mem he
    have hne : s.find e.1 ≠ [] := by
      rw [hfind]
      exact s.inhabited e he
    rw [h.canonical hne] at hkey
    subst hkey
    show e.2.map Text.chomp = s.find e.1
    rw [hfind]
    have hlines := h.lines e.1
    rw [hfind] at hlines
    exact (List.map_congr_left hlines).trans (List.map_id' e.2)

end Sections

/-! ### Requests -/

namespace Prologue

/-- What is asked of a prologue: an edit, or the lines of a section. -/
inductive Request where
  | edit (e : Edit)
  | read (name : Option Text)

/-- The name of a section that a request gives. -/
def Request.name? : Request → Option Text
  | .edit (.write name _) => name
  | .edit (.erase name) => name
  | .read name => name
  | _ => none

/-- The prologue after a request, and the reply or the refusal. -/
def request (p : Prologue) : Request → Prologue × Except EditRefusal EditReply
  | .edit e => ((p.edit e).prologue, (p.edit e).reply)
  | .read name =>
    match require name with
    | .error refusal => (p, .error (.name refusal))
    | .ok name => (p, .ok (.stored (p.content name)))

/-- A prologue after requests, one after another. -/
def requests (p : Prologue) (rs : List Request) : Prologue :=
  rs.foldl (fun p r => (p.request r).1) p

/-- What a guess for a section writes: the guess, if there is one and the section is empty. -/
def guessed (p : Prologue) (name : Text) (guess : Option Text) : List (Text × List Text) :=
  if (p.content name).isEmpty then guess.toList.map fun line => (name, [line]) else []

/-- What guessing from a file name writes. -/
def guesses (p : Prologue) : Option Text → List (Text × List Text)
  | none => []
  | some file => p.guessed "Language" (FileKind.language? file) ++
      p.guessed "Type of Module" (FileKind.moduleType? file)

/-- What is written under a name that may be refused. -/
def entryUnder (name : Option Text) (ls : List Text) : List (Text × List Text) :=
  match require name with
  | .ok name => [(name, ls)]
  | .error _ => []

/-- What is written to fill a section: nothing if it is populated under one of its spellings. -/
def filling (p : Prologue) (name : Text) (ls : List Text) : List (Text × List Text) :=
  if p.lacks name then [(name, ls)] else []

/-- What an edit **writes** under which names. A refused edit writes nothing. -/
def writes (p : Prologue) : Edit → List (Text × List Text)
  | .write name (.lines ls) => entryUnder name ls
  | .write _ (.bare _) => []
  | .erase name => entryUnder name []
  | .assign _ => []
  | .guess file => p.guesses file
  | .license (.lines ls) => p.filling "Licence" ls
  | .license (.bare _) => []
  | .creditYears holder currentYear => p.filling "Copyright" (p.credited holder currentYear)
  | .modernise file _ => p.guesses file

/-- The **entries** of a request: what an edit writes, and nothing for a read. -/
def entriesOf (p : Prologue) : Request → List (Text × List Text)
  | .edit e => p.writes e
  | .read _ => []

/-- The **ledger** of requests: their entries, in order. -/
def ledger (p : Prologue) : List Request → List (Text × List Text)
  | [] => []
  | r :: rs => p.entriesOf r ++ (p.request r).1.ledger rs

variable {p : Prologue}

/-! ### What a request does -/

theorem sections_fillIn (p : Prologue) (name : Text) (guess : Option Text) :
    (p.fillIn name guess).sections = p.sections.enterAll (p.guessed name guess) := by
  unfold fillIn guessed
  split
  · cases guess with
    | some line => rfl
    | none => rfl
  · rfl

theorem sections_guess (p : Prologue) (file : Option Text) :
    (p.guess file).sections = p.sections.enterAll (p.guesses file) := by
  cases file with
  | none => rfl
  | some file =>
    have hne : canonical (Text.ofString "Type of Module") ≠
        canonical (Text.ofString "Language") := by decide
    have hmodule : (p.fillIn "Language" (FileKind.language? file)).guessed "Type of Module"
        (FileKind.moduleType? file) =
        p.guessed "Type of Module" (FileKind.moduleType? file) := by
      rw [guessed, guessed, content_fillIn_of_ne hne]
    rw [guess, sections_fillIn, sections_fillIn, hmodule, guesses, Sections.enterAll_append]

/-- **An edit does to the sections what it writes**, and one that is refused does nothing at all. -/
theorem edit_cases (p : Prologue) (e : Edit) :
    (p.edit e).prologue.sections = p.sections.enterAll (p.writes e) ∧
      ∀ refusal, (p.edit e).reply = .error refusal → (p.edit e).prologue = p := by
  cases e with
  | write name offer =>
    cases offer with
    | lines ls =>
      simp only [edit, writes, entryUnder]
      cases require name with
      | error refusal => exact ⟨rfl, fun _ _ => rfl⟩
      | ok name => exact ⟨rfl, fun _ h => absurd h (by simp)⟩
    | bare text =>
      simp only [edit, writes]
      cases require name with
      | error refusal => exact ⟨rfl, fun _ _ => rfl⟩
      | ok name => exact ⟨rfl, fun _ _ => rfl⟩
  | erase name =>
    simp only [edit, writes, entryUnder]
    cases require name with
    | error refusal => exact ⟨rfl, fun _ _ => rfl⟩
    | ok name => exact ⟨rfl, fun _ h => absurd h (by simp)⟩
  | assign setting =>
    refine ⟨?_, fun _ h => absurd h (by simp [edit])⟩
    cases setting <;> rfl
  | guess file => exact ⟨p.sections_guess file, fun _ h => absurd h (by simp [edit])⟩
  | license offer =>
    cases offer with
    | lines ls =>
      simp only [edit, writes, license, filling]
      split
      · exact ⟨rfl, fun _ h => absurd h (by simp)⟩
      · exact ⟨rfl, fun _ _ => rfl⟩
    | bare text =>
      simp only [edit, writes]
      split
      · exact ⟨rfl, fun _ _ => rfl⟩
      · exact ⟨rfl, fun _ _ => rfl⟩
  | creditYears holder currentYear =>
    refine ⟨?_, fun _ h => absurd h (by simp [edit])⟩
    show (p.creditYears holder currentYear).sections = _
    rw [creditYears_eq, writes, filling]
    split
    · rfl
    · rfl
  | modernise file writeDefaults =>
    exact ⟨p.sections_guess file, fun _ h => absurd h (by simp [edit])⟩

theorem request_read (p : Prologue) (name : Option Text) : (p.request (.read name)).1 = p := by
  simp only [request]
  cases require name with
  | error refusal => rfl
  | ok name => rfl

/-- **A request does to the sections what its entries say.** -/
theorem sections_request (p : Prologue) (r : Request) :
    (p.request r).1.sections = p.sections.enterAll (p.entriesOf r) := by
  cases r with
  | edit e => exact (p.edit_cases e).1
  | read name =>
    rw [request_read]
    rfl

/-- **A request that is refused changes nothing.** -/
theorem request_of_error {r : Request} {refusal : EditRefusal}
    (h : (p.request r).2 = .error refusal) : (p.request r).1 = p := by
  cases r with
  | edit e => exact (p.edit_cases e).2 refusal h
  | read name => exact request_read p name

/-- **Requests do to the sections what their ledger says.** -/
theorem sections_requests (p : Prologue) (rs : List Request) :
    (p.requests rs).sections = p.sections.enterAll (p.ledger rs) := by
  induction rs generalizing p with
  | nil => rfl
  | cons r rs ih =>
    show ((p.request r).1.requests rs).sections = _
    rw [ih, sections_request, ledger, Sections.enterAll_append]

/-! ### Requests keep sections normal -/

theorem isFit_of_isAscii {name : Text} (hblank : name.isBlank = false)
    (hascii : name.isAscii = true) : IsFit name := ⟨hblank, isSettled_of_isAscii hascii⟩

/-- The names of the sections that edits fill of themselves are fit. -/
theorem isFit_completed : ∀ name ∈ completed, IsFit name := by
  have hall : ∀ name ∈ completed, name.isBlank = false ∧ name.isAscii = true := by decide
  intro name hname
  exact isFit_of_isAscii (hall name hname).1 (hall name hname).2

theorem name_of_mem_guessed {name : Text} {guess : Option Text} {w : Text × List Text}
    (h : w ∈ p.guessed name guess) : w.1 = name := by
  rw [guessed] at h
  split at h
  · obtain ⟨line, -, rfl⟩ := List.mem_map.1 h
    rfl
  · exact absurd h List.not_mem_nil

theorem isFit_of_mem_guesses {file : Option Text} {w : Text × List Text} (h : w ∈ p.guesses file) :
    IsFit w.1 := by
  obtain ⟨-, -, hlanguage, hmodule⟩ := mem_completed
  cases file with
  | none => exact absurd h List.not_mem_nil
  | some file =>
    rcases List.mem_append.1 h with h | h
    · rw [name_of_mem_guessed h]
      exact isFit_completed _ hlanguage
    · rw [name_of_mem_guessed h]
      exact isFit_completed _ hmodule

theorem isFit_of_mem_entryUnder {name : Option Text} (hascii : name.all Text.isAscii = true)
    {ls : List Text} {w : Text × List Text} (h : w ∈ entryUnder name ls) : IsFit w.1 := by
  cases name with
  | none => exact absurd h List.not_mem_nil
  | some name =>
    cases hblank : name.isBlank with
    | true => exact absurd h (by simp [entryUnder, require, hblank])
    | false =>
      have hw : w = (name, ls) := by simpa [entryUnder, require, hblank] using h
      rw [hw]
      exact isFit_of_isAscii hblank hascii

theorem isFit_of_mem_filling {name : Text} (hname : name ∈ completed) {ls : List Text}
    {w : Text × List Text} (h : w ∈ p.filling name ls) : IsFit w.1 := by
  rw [filling] at h
  split at h
  · rw [List.mem_singleton.1 h]
    exact isFit_completed name hname
  · exact absurd h List.not_mem_nil

/-- **What requests enter has fit names**, if the names given are ASCII. -/
theorem isFit_of_mem_entriesOf {r : Request} (hascii : r.name?.all Text.isAscii = true)
    {w : Text × List Text} (h : w ∈ p.entriesOf r) : IsFit w.1 := by
  cases r with
  | read name => exact absurd h List.not_mem_nil
  | edit e =>
    have h : w ∈ p.writes e := h
    cases e with
    | write name offer =>
      cases offer with
      | lines ls => exact isFit_of_mem_entryUnder hascii h
      | bare text => exact absurd h List.not_mem_nil
    | erase name => exact isFit_of_mem_entryUnder hascii h
    | assign setting => exact absurd h List.not_mem_nil
    | guess file => exact isFit_of_mem_guesses h
    | license offer =>
      cases offer with
      | lines ls => exact isFit_of_mem_filling mem_completed.1 h
      | bare text => exact absurd h List.not_mem_nil
    | creditYears holder currentYear => exact isFit_of_mem_filling mem_completed.2.1 h
    | modernise file writeDefaults => exact isFit_of_mem_guesses h

/-- **A request keeps the sections normal**, whether it is refused or not. -/
theorem normal_request (h : p.sections.Normal) {r : Request}
    (hascii : r.name?.all Text.isAscii = true) : (p.request r).1.sections.Normal := by
  rw [sections_request]
  apply h.enterAll
  intro w hw
  exact isFit_of_mem_entriesOf hascii hw

/-- **So do all requests.** -/
theorem normal_requests (h : p.sections.Normal) {rs : List Request}
    (hascii : ∀ r ∈ rs, r.name?.all Text.isAscii = true) : (p.requests rs).sections.Normal := by
  induction rs generalizing p with
  | nil => exact h
  | cons r rs ih =>
    obtain ⟨hr, hothers⟩ := List.forall_mem_cons.1 hascii
    exact ih (normal_request h hr) hothers

end Prologue

/-! ### Standard and other sections -/

/-- The names of the standard sections and their second spellings. -/
def Standard.catalogue : List Text := Standard.written ++ aliases.map (·.2)

theorem Standard.catalogue_nodup : catalogue.Nodup := by decide +kernel

namespace Prologue

variable {p : Prologue}

/-- **The populated sections are divided** into the other ones and those of the catalogue. -/
theorem sectionNames_perm (p : Prologue) :
    p.sectionNames.Perm (p.otherNames ++ catalogue.filter p.sections.has) := by
  have hstandard : (p.sectionNames.filter fun name => Standard.names.contains name).Perm
      (catalogue.filter p.sections.has) := by
    apply (List.perm_ext_iff_of_nodup (p.sections.names_nodup.filter _)
      (catalogue_nodup.filter _)).2
    intro name
    rw [List.mem_filter, List.mem_filter, Sections.mem_names_iff, Sections.has_iff,
      List.contains_iff_mem, Standard.mem_names_iff, catalogue, List.mem_append, List.mem_map]
    exact and_comm
  have hsplit := (List.filter_append_perm (fun name => Standard.names.contains name)
    p.sectionNames).symm
  exact hsplit.trans ((hstandard.append_right p.otherNames).trans List.perm_append_comm)

/-- What a name resolves to is populated. -/
theorem has_of_resolve? {name found : Text} (h : p.resolve? name = some found) :
    p.sections.has found = true := by
  rw [resolve?] at h
  split at h
  · next hhas => rwa [← Option.some.inj h]
  · exact (Option.filter_eq_some_iff.1 h).2

/-- **A name that resolves to something has lines**, and no other name has. -/
theorem resolved_ne_nil_iff (h : p.sections.Normal) (name : Text) :
    (p.resolved name).2 ≠ [] ↔ p.resolve? name ≠ none := by
  rw [resolved]
  cases hfound : p.resolve? name with
  | none => simp
  | some found =>
    have hlines := Sections.has_iff.1 (has_of_resolve? hfound)
    show p.content found ≠ [] ↔ _
    rw [content, h.canonical hlines]
    simp [hlines]

/-! ### Prologues to begin with -/

/-- A prologue that a scanner **returns** when it is called in some way, with ASCII names in the
headings that readers are given. -/
def IsReturned (p : Prologue) : Prop :=
  ∃ (cs : List Scanner.Call) (c : Scanner.Call), Scanner.asciiCalls {} (cs ++ [c]) = true ∧
    ((Scanner.afterCalls {} cs).call c).2 = some p

/-- It is the prologue that a sound reader has read. -/
theorem IsReturned.exists_reader (h : p.IsReturned) :
    ∃ r : Reader, r.SoundFor Body.IsKept ∧ r.draft.prologue = p := by
  obtain ⟨cs, c, hascii, hp⟩ := h
  rw [Scanner.asciiCalls_concat, Bool.and_eq_true] at hascii
  obtain ⟨r, hr, hreturned⟩ := Scanner.returned_of_call hp
  have hsound := (Scanner.kept_afterCalls hascii.1 r hr).1
  rcases hreturned with rfl | ⟨m, d, text, rfl, rfl, rfl⟩
  · exact ⟨r.settle, Reader.soundFor_settle Body.isLineProperty_isKept hsound, rfl⟩
  · exact ⟨_, Scanner.soundFor_reader_push hr hsound hascii.2, rfl⟩

theorem IsReturned.normal (h : p.IsReturned) : p.sections.Normal := by
  obtain ⟨r, hsound, rfl⟩ := h.exists_reader
  have hblocks : ∀ e ∈ r.draft.prologue.sections.entries, Body.IsBlock IsLabel Body.IsKept e := by
    cases r with
    | modern m d => exact hsound.1.sections
    | legacy m seen d => exact (hsound.1.mono fun name hname => hname.label).sections
  constructor
  · intro name hname
    have hlabel := (hblocks _ (Sections.mem_entries_of_find (Sections.mem_names_iff.1 hname))).1
    exact normalize_eq_ok_iff.2 ⟨Heading.isBlank_of_isName hlabel.grammar, hlabel.canonical⟩
  · intro name line hline
    have hne := List.ne_nil_of_mem hline
    exact ((hblocks _ (Sections.mem_entries_of_find hne)).2.2 line hline).chomp

/-- **What the sections of a prologue hold.** Let a prologue have no sections, or let it be one that
a scanner has returned, with ASCII names in headings. Whatever is then asked of it under ASCII
names, each name is the normal form of itself, each section has lines, no line ends with a line end,
and the names ascend. A section can be read under every spelling that is normalised to its name, and
what is read are the lines entered last, if not by a request then when the prologue was found,
without their line ends. A request that is refused changes nothing. The populated sections are
divided into the other ones and those of the catalogue, and a name resolves to something just in
case it has lines. -/
theorem sections_hold_ledger (p : Prologue) (hstart : p.sections = .empty ∨ p.IsReturned)
    (rs : List Request) (hascii : ∀ r ∈ rs, r.name?.all Text.isAscii = true) :
    let q := p.requests rs
    (∀ e ∈ q.sections.entries, normalize (some e.1) = .ok e.1 ∧ e.2 ≠ [] ∧ ∀ line ∈ e.2,
      line.getLast? ≠ some Text.newline ∧ line.getLast? ≠ some Text.carriageReturn) ∧
    q.sectionNames.Pairwise (· < ·) ∧
    (∀ name ∈ q.sectionNames, ∃ ls, lastUnder name (p.sections.entries ++ p.ledger rs) = some ls ∧
      ∀ spelling, normalize (some spelling) = .ok name →
        (q.request (.read (some spelling))).2 = .ok (.stored (ls.map Text.chomp))) ∧
    (∀ r refusal, (q.request r).2 = .error refusal → (q.request r).1 = q) ∧
    (q.sectionNames.Perm (q.otherNames ++ catalogue.filter q.sections.has) ∧
      (q.otherNames ++ catalogue.filter q.sections.has).Nodup) ∧
    ∀ name, (q.resolved name).2 ≠ [] ↔ q.resolve? name ≠ none := by
  intro q
  have hbegun : p.sections.Normal := by
    rcases hstart with hempty | hreturned
    · rw [hempty]
      exact Sections.normal_empty
    · exact hreturned.normal
  have hnormal : q.sections.Normal := normal_requests hbegun hascii
  have hledger : q.sections = Sections.empty.enterAll (p.sections.entries ++ p.ledger rs) := by
    rw [Sections.enterAll_append, hbegun.enterAll_entries]
    exact p.sections_requests rs
  refine ⟨?_, q.sections.names_pairwise, ?_, ?_, ⟨q.sectionNames_perm, ?_⟩, ?_⟩
  · intro e he
    have hlines := hnormal.lines e.1
    rw [Sections.find_of_mem he] at hlines
    refine ⟨hnormal.names e.1 (List.mem_map_of_mem he), q.sections.inhabited e he, ?_⟩
    intro line hline
    exact Text.getLast?_of_chomp (hlines line hline)
  · intro name hname
    have hne := mem_sectionNames_iff.1 hname
    have hfind := Sections.find_enterAll .empty (p.sections.entries ++ p.ledger rs) name
    rw [← hledger] at hfind
    cases hlast : lastUnder name (p.sections.entries ++ p.ledger rs) with
    | none =>
      rw [hlast] at hfind
      exact absurd hfind hne
    | some ls =>
      rw [hlast] at hfind
      refine ⟨ls, rfl, ?_⟩
      intro spelling hspelling
      obtain ⟨hblank, hcanonical⟩ := normalize_eq_ok_iff.1 hspelling
      have hread : (q.request (.read (some spelling))).2 = .ok (.stored (q.content spelling)) := by
        simp [request, require, hblank]
      rw [hread, content, hcanonical, hfind]
      rfl
  · intro r refusal hrefused
    exact request_of_error hrefused
  · rw [← q.sectionNames_perm.nodup_iff]
    exact q.sections.names_nodup
  · exact resolved_ne_nil_iff hnormal

/-- A prologue that is found with notes and then edited, with two refusals, under several spellings
of a name. -/
theorem sections_hold_ledger_notes :
    let cs : List Scanner.Call := [.line "*+", .line "*  Notes:", .line "*     one"]
    let rs : List Request := [
      .edit (.write (some " further  NOtes ") (.lines [Text.ofString "a\r\n", Text.ofString "b"])),
      .edit (.write (some " ") (.lines [Text.ofString "lost"])),
      .edit (.write (some "further notes") (.bare "lost")),
      .edit (.license (.lines [Text.ofString "free\n"])),
      .edit (.write (some "further notes") (.lines [Text.ofString "c\r\n"])),
      .edit (.erase (some "bugs")), .read none]
    (∀ r ∈ rs, r.name?.all Text.isAscii = true) ∧
      ∃ p, ((Scanner.afterCalls {} cs).call .flush).2 = some p ∧ p.IsReturned ∧
      (p.requests rs).sectionNames =
        [Text.ofString "Further Notes", Text.ofString "Licence", Text.ofString "Notes"] ∧
      ((p.requests rs).request (.read (some "FURTHEr\tnotes"))).2 =
        .ok (.stored [Text.ofString "c"]) ∧
      ((p.requests rs).request (.read (some "NoTes"))).2 = .ok (.stored [Text.ofString "one"]) ∧
      (p.requests rs).otherNames = [Text.ofString "Further Notes"] ∧
      ((p.requests rs).resolved "license").2 = [] := by
  intro cs rs
  have hascii : ∀ r ∈ rs, r.name?.all Text.isAscii = true := by decide
  refine ⟨hascii, ?_⟩
  cases hp : ((Scanner.afterCalls {} cs).call .flush).2 with
  | none => exact absurd hp (by decide +kernel)
  | some p =>
    have hreturned : p.IsReturned := ⟨cs, .flush, by decide +kernel, hp⟩
    obtain ⟨-, -, hread, -, -, hresolved⟩ := sections_hold_ledger p (Or.inr hreturned) rs hascii
    have hall : ((Scanner.afterCalls {} cs).call .flush).2.all (fun p =>
        (p.requests rs).sectionNames =
          [Text.ofString "Further Notes", Text.ofString "Licence", Text.ofString "Notes"] ∧
        lastUnder "Further Notes" (p.sections.entries ++ p.ledger rs) =
          some [Text.ofString "c\r\n"] ∧
        lastUnder "Notes" (p.sections.entries ++ p.ledger rs) = some [Text.ofString "one"] ∧
        (p.requests rs).otherNames = [Text.ofString "Further Notes"] ∧
        (p.requests rs).resolve? "license" = none) = true := by decide +kernel
    rw [hp] at hall
    obtain ⟨hnames, hfurther, hnotes, hothers, hnone⟩ := of_decide_eq_true hall
    refine ⟨p, rfl, hreturned, hnames, ?_, ?_, hothers, ?_⟩
    · obtain ⟨ls, hlast, hspellings⟩ := hread (Text.ofString "Further Notes") (by rw [hnames]; simp)
      rw [hfurther] at hlast
      rw [hspellings _ (by decide +kernel), ← Option.some.inj hlast]
      rfl
    · obtain ⟨ls, hlast, hspellings⟩ := hread (Text.ofString "Notes") (by rw [hnames]; simp)
      rw [hnotes] at hlast
      rw [hspellings _ (by decide +kernel), ← Option.some.inj hlast]
      rfl
    · by_contra hlines
      exact (hresolved "license").1 hlines hnone

end Prologue

end SourcePrologue

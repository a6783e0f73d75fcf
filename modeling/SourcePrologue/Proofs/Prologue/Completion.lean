import Mathlib.Data.List.Pairwise
import SourcePrologue.Proofs.Prologue.Edit
import SourcePrologue.Proofs.Prologue.Lasting

/-!
# Completing prologues

A licence, a copyright notice and guesses all **complete** a prologue: they fill a section unless it
is populated under one of its spellings.

* **`Prologue.complete`** — the prologue with a section filled in this way, of which
  **`complete_complete`** and **`complete_comm`** say that the first lines remain and that the order
  of sections does not matter;
* **`Prologue.Adds`** — what such an edit leaves as it was;
* **`Prologue.completions_add_once`** — the three edits only add, say whether they have added
  something, add nothing when they are repeated, and can be carried out in any order.
-/

namespace SourcePrologue

open Standard

namespace Prologue

variable {p q r : Prologue} {name other : Text} {ls ms : List Text}

/-! ### Filling a section -/

/-- The spellings under which a section is found by its name. -/
def spellings (name : Text) : List Text := name :: (aliases.lookup name).toList

/-- A prologue with a section filled, unless it is populated under one of its spellings. -/
def complete (p : Prologue) (name : Text) (ls : List Text) : Prologue :=
  if p.lacks name then p.setContent name ls else p

/-- The names of the sections that prologues are completed with. -/
def completed : List Text := ["Licence", "Copyright", "Language", "Type of Module"]

/-- These names are canonical, as that of the history is, and no section among them is found by the
name of another one. Guesses are made for sections with one spelling. -/
theorem completed_spec :
    (∀ name ∈ completed, SectionName.canonical name = name ∧
      ∀ other ∈ completed, other ≠ name → other ∉ spellings name) ∧
    SectionName.canonical "History" = Text.ofString "History" ∧
    aliases.lookup (Text.ofString "Language") = none ∧
    aliases.lookup (Text.ofString "Type of Module") = none := by
  decide

theorem canonical_of_mem_completed (h : name ∈ completed) : SectionName.canonical name = name :=
  (completed_spec.1 name h).1

theorem mem_completed : Text.ofString "Licence" ∈ completed ∧
    Text.ofString "Copyright" ∈ completed ∧ Text.ofString "Language" ∈ completed ∧
    Text.ofString "Type of Module" ∈ completed := by
  simp [completed]

theorem history_notMem_completed : Text.ofString "History" ∉ completed := by
  simp [completed, Text.ofString_inj]

theorem lacks_iff_spellings (hc : SectionName.canonical name = name) :
    p.lacks name = true ↔ ∀ key ∈ spellings name, p.sections.find key = [] := by
  rw [lacks_iff hc, spellings, List.forall_mem_cons]
  simp only [Option.mem_toList]

theorem lacks_congr (hc : SectionName.canonical name = name)
    (h : ∀ key ∈ spellings name, q.sections.find key = p.sections.find key) :
    q.lacks name = p.lacks name := by
  rw [Bool.eq_iff_iff, lacks_iff_spellings hc, lacks_iff_spellings hc]
  exact forall₂_congr fun key hkey => by rw [h key hkey]

theorem setContent_comm (h : SectionName.canonical name ≠ SectionName.canonical other)
    (ls ms : List Text) :
    (p.setContent name ls).setContent other ms = (p.setContent other ms).setContent name ls := by
  rw [setContent, setContent, setContent, setContent, Sections.set_comm _ h]

theorem complete_eq (p : Prologue) (name : Text) (ls : List Text) :
    p.complete name ls = { p with sections := (p.complete name ls).sections } := by
  rw [complete]
  split <;> rfl

theorem find_complete_of_ne {key : Text} (h : key ≠ SectionName.canonical name) :
    (p.complete name ls).sections.find key = p.sections.find key := by
  rw [complete]
  split
  · rw [setContent, Sections.find_set, if_neg h]
  · rfl

theorem lacks_complete_self (hc : SectionName.canonical name = name) (hls : ls ≠ []) :
    (p.complete name ls).lacks name = false := by
  rw [complete]
  split
  · exact lacks_setContent_self hc hls
  · next h => simpa using h

theorem lacks_complete (hname : name ∈ completed) (hother : other ∈ completed)
    (hne : name ≠ other) : (p.complete name ls).lacks other = p.lacks other := by
  obtain ⟨hc, hspellings⟩ := completed_spec.1 other hother
  refine lacks_congr hc fun key hkey => find_complete_of_ne ?_
  rw [canonical_of_mem_completed hname]
  rintro rfl
  exact hspellings key hname hne hkey

/-- **The first lines remain.** -/
theorem complete_complete (hc : SectionName.canonical name = name) (hls : ls ≠ [])
    (ms : List Text) : (p.complete name ls).complete name ms = p.complete name ls := by
  rw [complete, lacks_complete_self hc hls]
  rfl

/-- A prologue is not the same when it has been completed with something that it lacked. -/
theorem complete_ne_iff (hc : SectionName.canonical name = name) (hls : ls ≠ []) :
    p.complete name ls ≠ p ↔ p.lacks name = true := by
  constructor
  · intro hne
    by_contra hlacks
    exact hne (if_neg hlacks)
  · intro hlacks hsame
    have hfilled := lacks_complete_self (p := p) hc hls
    rw [hsame, hlacks] at hfilled
    exact Bool.noConfusion hfilled

/-- **The order of sections does not matter.** -/
theorem complete_comm (hname : name ∈ completed) (hother : other ∈ completed) (hne : name ≠ other)
    (ls ms : List Text) :
    (p.complete name ls).complete other ms = (p.complete other ms).complete name ls := by
  have hcanonical : SectionName.canonical name ≠ SectionName.canonical other := by
    rwa [canonical_of_mem_completed hname, canonical_of_mem_completed hother]
  show (if (p.complete name ls).lacks other then (p.complete name ls).setContent other ms
      else p.complete name ls) =
    if (p.complete other ms).lacks name then (p.complete other ms).setContent name ls
      else p.complete other ms
  rw [lacks_complete hname hother hne, lacks_complete hother hname hne.symm, complete, complete]
  cases p.lacks name with
  | false => simp only [Bool.false_eq_true, if_false]
  | true =>
    cases p.lacks other with
    | false => simp only [Bool.false_eq_true, if_false, if_true]
    | true =>
      simp only [if_true]
      exact setContent_comm hcanonical ls ms

/-! ### What is added -/

/-- An edit **adds** sections of certain names if it leaves all else as it was, populated sections
of these names as well, but for whether placeholders are written. -/
structure Adds (names : List Text) (p q : Prologue) : Prop where
  style : q.style = p.style
  commentChar : q.commentChar = p.commentChar
  opensComment : q.opensComment = p.opensComment
  closesComment : q.closesComment = p.closesComment
  kept : ∀ key, p.sections.find key ≠ [] → q.sections.find key = p.sections.find key
  within : ∀ key, q.sections.find key ≠ p.sections.find key → key ∈ names

theorem Adds.refl (names : List Text) (p : Prologue) : Adds names p p :=
  ⟨rfl, rfl, rfl, rfl, fun _ _ => rfl, fun _ h => absurd rfl h⟩

theorem Adds.trans {names others : List Text} (h : Adds names p q) (h' : Adds others q r) :
    Adds (names ++ others) p r where
  style := h'.style.trans h.style
  commentChar := h'.commentChar.trans h.commentChar
  opensComment := h'.opensComment.trans h.opensComment
  closesComment := h'.closesComment.trans h.closesComment
  kept key hkey := by
    have hfirst := h.kept key hkey
    rw [← hfirst] at hkey
    exact (h'.kept key hkey).trans hfirst
  within key hkey := by
    by_cases hsame : q.sections.find key = p.sections.find key
    · rw [← hsame] at hkey
      exact List.mem_append_right _ (h'.within key hkey)
    · exact List.mem_append_left _ (h.within key hsame)

/-- **Completing a section adds it**, at the most. -/
theorem adds_complete (hc : SectionName.canonical name = name) (p : Prologue) (ls : List Text) :
    Adds [name] p (p.complete name ls) := by
  have hfind : ∀ key, key ≠ name →
      (p.complete name ls).sections.find key = p.sections.find key := fun key hkey =>
    find_complete_of_ne (by rwa [hc])
  have heq := p.complete_eq name ls
  refine ⟨(congrArg style heq :), (congrArg commentChar heq :), (congrArg opensComment heq :),
    (congrArg closesComment heq :), fun key hkey => ?_, fun key hkey => ?_⟩
  · by_cases hname : key = name
    · rw [complete, if_neg]
      rw [lacks_iff hc, ← hname]
      exact fun h => hkey h.1
    · exact hfind key hname
  · rw [List.mem_singleton]
    by_contra hname
    exact hkey (hfind key hname)

/-- What adds no history leaves the notice to be given as it was. -/
theorem Adds.credited_eq {names : List Text} (h : Adds names p q)
    (hhistory : Text.ofString "History" ∉ names) (holder : Option Text) (currentYear : Int) :
    q.credited holder currentYear = p.credited holder currentYear := by
  have hcontent : q.content "History" = p.content "History" := by
    rw [content, content, completed_spec.2.1]
    by_contra hne
    exact hhistory (h.within _ hne)
  have hyears : q.creditedYears currentYear = p.creditedYears currentYear := by
    rw [creditedYears, creditedYears, years, years, hcontent]
  unfold credited
  rw [hyears]

/-! ### Licence and notice -/

theorem license_eq_complete (p : Prologue) (ls : List Text) :
    p.license ls = p.complete "Licence" ls := rfl

theorem creditYears_eq_complete (p : Prologue) (holder : Option Text) (currentYear : Int) :
    p.creditYears holder currentYear =
      p.complete "Copyright" (p.credited holder currentYear) := rfl

/-- A notice can be given before or after another section. -/
theorem creditYears_complete (hname : name ∈ completed) (hne : name ≠ Text.ofString "Copyright")
    (ls : List Text) (holder : Option Text) (currentYear : Int) :
    (p.complete name ls).creditYears holder currentYear =
      (p.creditYears holder currentYear).complete name ls := by
  have hhistory : Text.ofString "History" ∉ [name] := fun hmem =>
    history_notMem_completed (List.mem_singleton.1 hmem ▸ hname)
  have hadds := adds_complete (canonical_of_mem_completed hname) p ls
  rw [creditYears_eq_complete, creditYears_eq_complete, hadds.credited_eq hhistory]
  exact complete_comm hname mem_completed.2.1 hne _ _

/-! ### Guesses -/

theorem lacks_eq_isEmpty (hc : SectionName.canonical name = name)
    (hsecond : aliases.lookup name = none) : p.lacks name = (p.content name).isEmpty := by
  rw [Bool.eq_iff_iff, lacks_iff hc, List.isEmpty_iff, content, hc]
  simp [hsecond]

/-- A guess completes a section with one spelling. -/
theorem fillIn_cases_complete (hc : SectionName.canonical name = name)
    (hsecond : aliases.lookup name = none) (p : Prologue) (guess : Option Text) :
    p.fillIn name guess = match guess with
      | some line => p.complete name [line]
      | none => p := by
  unfold fillIn
  rw [← lacks_eq_isEmpty hc hsecond]
  cases guess with
  | some line => rfl
  | none => exact ite_self p

theorem adds_fillIn (hc : SectionName.canonical name = name)
    (hsecond : aliases.lookup name = none) (p : Prologue) (guess : Option Text) :
    Adds [name] p (p.fillIn name guess) := by
  rw [fillIn_cases_complete hc hsecond]
  cases guess with
  | some line => exact adds_complete hc p [line]
  | none => exact Adds.refl _ p

/-- A guess can be made before or after another section is filled. -/
theorem fillIn_complete (hname : name ∈ completed) (hother : other ∈ completed)
    (hsecond : aliases.lookup other = none) (hne : name ≠ other) (ls : List Text)
    (guess : Option Text) :
    (p.complete name ls).fillIn other guess = (p.fillIn other guess).complete name ls := by
  have hc := canonical_of_mem_completed hother
  rw [fillIn_cases_complete hc hsecond, fillIn_cases_complete hc hsecond]
  cases guess with
  | some line => exact complete_comm hname hother hne ls [line]
  | none => rfl

theorem adds_guess (p : Prologue) (file : Option Text) :
    Adds ["Language", "Type of Module"] p (p.guess file) := by
  obtain ⟨-, -, hlanguage, hmodule⟩ := mem_completed
  obtain ⟨-, -, hsecond, hsecond'⟩ := completed_spec
  cases file with
  | none => exact Adds.refl _ p
  | some file =>
    exact (adds_fillIn (canonical_of_mem_completed hlanguage) hsecond _ _).trans
      (adds_fillIn (canonical_of_mem_completed hmodule) hsecond' _ _)

theorem guess_complete (hname : name ∈ completed) (hlanguage : name ≠ Text.ofString "Language")
    (hmodule : name ≠ Text.ofString "Type of Module") (ls : List Text) (file : Option Text) :
    (p.complete name ls).guess file = (p.guess file).complete name ls := by
  obtain ⟨-, -, hmem, hmem'⟩ := mem_completed
  obtain ⟨-, -, hsecond, hsecond'⟩ := completed_spec
  cases file with
  | none => rfl
  | some file =>
    rw [guess, guess, fillIn_complete hname hmem hsecond hlanguage,
      fillIn_complete hname hmem' hsecond' hmodule]

/-! ### Modernising -/

theorem adds_modernise (p : Prologue) (file : Option Text) (yes : Bool) :
    Adds ["Language", "Type of Module"] p (p.modernise file yes) :=
  let h := p.adds_guess file
  ⟨h.style, h.commentChar, h.opensComment, h.closesComment, h.kept, h.within⟩

theorem modernise_complete (hname : name ∈ completed) (hlanguage : name ≠ Text.ofString "Language")
    (hmodule : name ≠ Text.ofString "Type of Module") (ls : List Text) (file : Option Text)
    (yes : Bool) :
    (p.complete name ls).modernise file yes = (p.modernise file yes).complete name ls := by
  have hasked : ∀ q : Prologue, ({ q with writeDefaults := yes } : Prologue).complete name ls =
      { q.complete name ls with writeDefaults := yes } := fun q => by
    show (if q.lacks name then { q.setContent name ls with writeDefaults := yes }
      else { q with writeDefaults := yes }) = _
    rw [complete]
    split <;> rfl
  rw [modernise_eq, modernise_eq, guess_complete hname hlanguage hmodule, hasked]

theorem modernise_modernise (p : Prologue) (file : Option Text) (yes : Bool) :
    (p.modernise file yes).modernise file yes = p.modernise file yes := by
  cases file with
  | none => rfl
  | some file =>
    obtain ⟨hlanguage, hmodule⟩ := p.content_guess file
    have hself := guess_eq_self (p := p.modernise (some file) yes) hlanguage hmodule
    rw [modernise_eq (p.modernise (some file) yes), hself]
    rfl

/-! ### Completions -/

/-- The edits that complete a prologue with a licence, a notice, and guesses from a file name. -/
def completions (ls : List Text) (holder : Option Text) (currentYear : Int) (file : Option Text)
    (yes : Bool) : List Edit :=
  [.license (.lines ls), .creditYears holder currentYear, .modernise file yes]

/-- A prologue after edits, one after another. -/
def editAll (p : Prologue) (es : List Edit) : Prologue :=
  es.foldl (fun p e => (p.edit e).prologue) p

/-- An edit **completes** a section if it fills it where it is lacking, with lines that may depend
on the prologue, and says whether it was lacking. -/
structure Completes (e : Edit) (name : Text) (lines : Prologue → List Text) : Prop where
  canonical : SectionName.canonical name = name
  filled : ∀ p, lines p ≠ []
  prologue : ∀ p : Prologue, (p.edit e).prologue = p.complete name (lines p)
  reply : ∀ p : Prologue, (p.edit e).reply = .ok (.changed (p.lacks name))

variable {e : Edit} {lines : Prologue → List Text}

/-- **An edit that completes a section** says whether it has changed the prologue, and says of its
repetition that it has not. -/
theorem Completes.reply_iff (h : Completes e name lines) (p : Prologue) :
    ∃ added, (p.edit e).reply = .ok (.changed added) ∧
      (added = true ↔ (p.edit e).prologue ≠ p) ∧
      ((p.edit e).prologue.edit e).reply = .ok (.changed false) := by
  refine ⟨p.lacks name, h.reply p, ?_, ?_⟩
  · rw [h.prologue, complete_ne_iff h.canonical (h.filled p)]
  · rw [h.reply, h.prologue, lacks_complete_self h.canonical (h.filled p)]

theorem Completes.edit_edit (h : Completes e name lines) (p : Prologue) :
    ((p.edit e).prologue.edit e).prologue = (p.edit e).prologue := by
  rw [h.prologue, h.prologue, complete_complete h.canonical (h.filled p)]

theorem completes_license (hls : ls ≠ []) :
    Completes (.license (.lines ls)) "Licence" fun _ => ls := by
  refine ⟨canonical_of_mem_completed mem_completed.1, fun _ => hls, fun p => ?_, fun p => ?_⟩
  · rw [← license_eq_complete, edit]
    split
    · rfl
    · next hlacks => exact (if_neg hlacks).symm
  · rw [edit]
    split
    · next hlacks => rw [hlacks]
    · next hlacks =>
      rw [Bool.not_eq_true] at hlacks
      rw [hlacks]

theorem completes_creditYears (holder : Option Text) (currentYear : Int) :
    Completes (.creditYears holder currentYear) "Copyright" fun p =>
      p.credited holder currentYear :=
  ⟨canonical_of_mem_completed mem_completed.2.1,
    fun p => (p.credited_spec holder currentYear).2.2, fun _ => rfl, fun _ => rfl⟩

/-- Two edits **commute** if their order does not matter. -/
def Commute (e f : Edit) : Prop :=
  ∀ p : Prologue, ((p.edit e).prologue.edit f).prologue = ((p.edit f).prologue.edit e).prologue

instance : Std.Symm Commute where
  symm _ _ h p := (h p).symm

/-- **Completions commute.** -/
theorem completions_commute (hls : ls ≠ []) (holder : Option Text) (currentYear : Int)
    (file : Option Text) (yes : Bool) :
    (completions ls holder currentYear file yes).Pairwise Commute := by
  obtain ⟨hlicence, hcopyright, -, -⟩ := mem_completed
  have hlicensed := (completes_license hls).prologue
  have hcredited : Commute (.license (.lines ls)) (.creditYears holder currentYear) := by
    intro p
    rw [hlicensed, hlicensed]
    exact creditYears_complete hlicence (by simp [Text.ofString_inj]) ls holder currentYear
  have hmodern : Commute (.license (.lines ls)) (.modernise file yes) := by
    intro p
    rw [hlicensed, hlicensed]
    exact modernise_complete hlicence (by simp [Text.ofString_inj]) (by simp [Text.ofString_inj])
      ls file yes
  have hboth : Commute (.creditYears holder currentYear) (.modernise file yes) := by
    intro p
    show (p.complete "Copyright" (p.credited holder currentYear)).modernise file yes =
      (p.modernise file yes).complete "Copyright"
        ((p.modernise file yes).credited holder currentYear)
    have hhistory : Text.ofString "History" ∉
        ([Text.ofString "Language", Text.ofString "Type of Module"] : List Text) := by
      simp [Text.ofString_inj]
    rw [modernise_complete hcopyright (by simp [Text.ofString_inj]) (by simp [Text.ofString_inj]),
      (p.adds_modernise file yes).credited_eq hhistory]
  refine List.pairwise_cons.2 ⟨?_, List.pairwise_pair.2 hboth⟩
  exact List.forall_mem_cons.2 ⟨hcredited, List.forall_mem_singleton.2 hmodern⟩

/-- **Completions only add, add once, and in any order.** A licence, a notice and guesses from a
file name leave what is populated, the style and the comment as they were, and add no more than the
sections that are theirs. The first two say whether they have changed the prologue. Repeated, each
of the three changes nothing, and whatever their order is, they lead to the same prologue. -/
theorem completions_add_once (p : Prologue) {ls : List Text} (hls : ls ≠ [])
    (holder : Option Text) (currentYear : Int) (file : Option Text) (yes : Bool) :
    (Adds ["Licence"] p (p.edit (.license (.lines ls))).prologue ∧
      Adds ["Copyright"] p (p.edit (.creditYears holder currentYear)).prologue ∧
      Adds ["Language", "Type of Module"] p (p.edit (.modernise file yes)).prologue) ∧
    (∀ e ∈ ([.license (.lines ls), .creditYears holder currentYear] : List Edit), ∃ added,
      (p.edit e).reply = .ok (.changed added) ∧ (added = true ↔ (p.edit e).prologue ≠ p) ∧
        ((p.edit e).prologue.edit e).reply = .ok (.changed false)) ∧
    (∀ e ∈ completions ls holder currentYear file yes,
      ((p.edit e).prologue.edit e).prologue = (p.edit e).prologue) ∧
    ∀ es, es.Perm (completions ls holder currentYear file yes) →
      p.editAll es = p.editAll (completions ls holder currentYear file yes) := by
  have hlicense := completes_license hls
  have hcredit := completes_creditYears holder currentYear
  refine ⟨⟨?_, ?_, p.adds_modernise file yes⟩, ?_, ?_, fun es hperm => ?_⟩
  · rw [hlicense.prologue]
    exact adds_complete hlicense.canonical p ls
  · rw [hcredit.prologue]
    exact adds_complete hcredit.canonical p _
  · exact List.forall_mem_cons.2 ⟨hlicense.reply_iff p,
      List.forall_mem_singleton.2 (hcredit.reply_iff p)⟩
  · refine List.forall_mem_cons.2 ⟨hlicense.edit_edit p,
      List.forall_mem_cons.2 ⟨hcredit.edit_edit p, List.forall_mem_singleton.2 ?_⟩⟩
    exact p.modernise_modernise file yes
  · have hcommute := (completions_commute hls holder currentYear file yes).forall_of_forall
      fun e _ p => rfl
    refine hperm.foldl_eq' (fun e he f hf q => ?_) p
    exact hcommute (hperm.mem_iff.1 he) (hperm.mem_iff.1 hf) q

/-- A legacy prologue with a blank licence under the second spelling, and a language. -/
def sketch : Prologue := ({ style := some .legacy } : Prologue).appendAll [
  ("License", [[]]), ("History", [Text.ofString "14-JUN-1988 (MJC):"]),
  ("Language", [Text.ofString "C"])]

/-- Backwards, the three edits lead to the same prologue, without a second licence. -/
theorem completions_add_once_sketch : ([Text.ofString "GPL"] : List Text) ≠ [] ∧
    ∃ q, q = sketch.editAll [.modernise (some "foo_cmn") true, .creditYears (some "Me") 2020,
        .license (.lines [Text.ofString "GPL"])] ∧
      q = sketch.editAll
        (completions [Text.ofString "GPL"] (some "Me") 2020 (some "foo_cmn") true) ∧
      q.sectionNames = [Text.ofString "Copyright", Text.ofString "History",
        Text.ofString "Language", Text.ofString "License", Text.ofString "Type of Module"] ∧
      q.content "Copyright" = [Text.ofString "Copyright (C) 1988 Me. All Rights Reserved."] := by
  have hne : ([Text.ofString "GPL"] : List Text) ≠ [] := List.cons_ne_nil _ _
  obtain ⟨-, -, -, horder⟩ := completions_add_once sketch hne (some "Me") 2020 (some "foo_cmn")
    true
  have hreverse := horder _ (List.reverse_perm _)
  exact ⟨hne, _, rfl, hreverse, by decide, by decide⟩

end Prologue

end SourcePrologue

import SourcePrologue.Proofs.Convention.Reading
import SourcePrologue.Proofs.Prologue.Echo
import SourcePrologue.Prologue.Edit

/-!
# Guesses

What guessing from a file name does to a prologue that has been found:

* **`Prologue.sound_guess`** — a sound prologue stays sound, because every answer is a line that
  readers could have stored;
* **`Prologue.Sound.legible`** — and sound prologues are legible;
* **`Prologue.guess_eq_self`** — where there are answers already, guessing changes nothing;
* **`Prologue.echo_modernise`** — so what is read back of a modernised prologue can be modernised
  again and is an echo still.
-/

namespace SourcePrologue

open Body Standard

/-! ### Answers -/

namespace FileKind

/-- The languages and types of modules that file names can tell. -/
def answers : List Text :=
  [fortran, "Bourne Shell", "Makefile", "COMMON BLOCK", "FORTRAN INCLUDE"] ++
    suffixLanguages.map (·.2)

theorem answers_spec : ∀ line ∈ answers, Text.newline ∉ line ∧ line.chomp = line ∧
    line.isBlank = false := by decide +kernel

theorem mem_answers_of_language? {file line : Text} (h : language? file = some line) :
    line ∈ answers := by
  rw [language?] at h
  split at h
  · split at h
    · rw [← Option.some.inj h]
      simp [answers]
    · exact List.mem_append_right _ (List.mem_map.2 ⟨_, mem_of_lookup h, rfl⟩)
  · split at h
    · rw [← Option.some.inj h]
      simp [answers]
    · split at h
      · rw [← Option.some.inj h]
        simp [answers]
      · split at h
        · rw [← Option.some.inj h]
          simp [answers]
        · simp at h

theorem mem_answers_of_moduleType? {file line : Text} (h : moduleType? file = some line) :
    line ∈ answers := by
  rw [moduleType?] at h
  split at h
  · rw [← Option.some.inj h]
    simp [answers]
  · split at h
    · rw [← Option.some.inj h]
      simp [answers]
    · simp at h

end FileKind

namespace Prologue

variable {p : Prologue} {name : Text}

/-! ### Sound prologues -/

theorem Sound.legible (h : p.Sound) : p.Legible := by
  have hentry : ∀ key, p.sections.find key ≠ [] →
      IsBlock SectionName.IsLabel IsStored (key, p.sections.find key) := fun key hfind =>
    h.sections _ (Sections.mem_entries_of_find hfind)
  refine ⟨h.marked, ?_, ?_, ?_⟩
  · intro key hkey
    exact (hentry key (mem_sectionNames_iff.1 hkey)).1
  · intro key line hline
    have hstored := (hentry key (List.ne_nil_of_mem hline)).2.2 line hline
    exact ⟨hstored.newline, hstored.chomp⟩
  · intro key hfind
    rw [trimBlankEdges_of_trimmed (hentry key hfind).2.1]
    exact hfind

theorem fillIn_cases (p : Prologue) (name : Text) (guess : Option Text) :
    p.fillIn name guess = p ∨
      ∃ line, guess = some line ∧ p.fillIn name guess = p.setContent name [line] := by
  unfold fillIn
  split
  · cases guess with
    | none => exact Or.inl rfl
    | some line => exact Or.inr ⟨line, rfl, rfl⟩
  · exact Or.inl rfl

theorem sound_fillIn (hp : p.Sound) (hname : SectionName.IsLabel name) {guess : Option Text}
    (hguess : ∀ line, guess = some line → line ∈ FileKind.answers) :
    (p.fillIn name guess).Sound := by
  rcases fillIn_cases p name guess with hkept | ⟨line, hline, hfilled⟩
  · rw [hkept]
    exact hp
  · obtain ⟨hnewline, hchomp, hblank⟩ := FileKind.answers_spec line (hguess line hline)
    have hblock : IsBlock SectionName.IsLabel IsStored (name, [line]) :=
      isBlock_single hname (isStored_of_not_isBlank hnewline hchomp hblank) hblank
    rw [hfilled]
    exact ⟨hp.marked, isBlock_setContent regular_isLabel hp.sections hblock⟩

theorem isLabel_guessed :
    SectionName.IsLabel "Language" ∧ SectionName.IsLabel "Type of Module" := by
  decide +kernel

/-- **Guessing keeps a prologue sound.** -/
theorem sound_guess (hp : p.Sound) (file : Option Text) : (p.guess file).Sound := by
  cases file with
  | none => exact hp
  | some file =>
    refine sound_fillIn (sound_fillIn hp isLabel_guessed.1 ?_) isLabel_guessed.2 ?_
    · exact fun line => FileKind.mem_answers_of_language?
    · exact fun line => FileKind.mem_answers_of_moduleType?

theorem modernise_eq (p : Prologue) (file : Option Text) (yes : Bool) :
    p.modernise file yes = { p.guess file with writeDefaults := yes } := rfl

theorem fillIn_comment (p : Prologue) (name : Text) (guess : Option Text) :
    (p.fillIn name guess).opensComment = p.opensComment ∧
      (p.fillIn name guess).closesComment = p.closesComment := by
  rcases fillIn_cases p name guess with hkept | ⟨line, -, hfilled⟩
  · rw [hkept]
    exact ⟨rfl, rfl⟩
  · rw [hfilled]
    exact ⟨rfl, rfl⟩

theorem modernise_comment (p : Prologue) (file : Option Text) (yes : Bool) :
    (p.modernise file yes).opensComment = p.opensComment ∧
      (p.modernise file yes).closesComment = p.closesComment := by
  cases file with
  | none => exact ⟨rfl, rfl⟩
  | some file =>
    have hlanguage := fillIn_comment p "Language" (FileKind.language? file)
    have hmodule := fillIn_comment (p.fillIn "Language" (FileKind.language? file)) "Type of Module"
      (FileKind.moduleType? file)
    exact ⟨hmodule.1.trans hlanguage.1, hmodule.2.trans hlanguage.2⟩

theorem sound_modernise (hp : p.Sound) (file : Option Text) (yes : Bool) :
    (p.modernise file yes).Sound :=
  ⟨(sound_guess hp file).marked, (sound_guess hp file).sections⟩

/-! ### Guessing twice -/

theorem fillIn_of_ne_nil {guess : Option Text}
    (h : ∀ line, guess = some line → p.content name ≠ []) : p.fillIn name guess = p := by
  unfold fillIn
  split
  · next hempty =>
    cases guess with
    | none => rfl
    | some line => exact absurd (List.isEmpty_iff.1 hempty) (h line rfl)
  · rfl

/-- **Where there are answers already, guessing changes nothing.** -/
theorem guess_eq_self {file : Text}
    (hlanguage : ∀ line, FileKind.language? file = some line → p.content "Language" ≠ [])
    (hmodule : ∀ line, FileKind.moduleType? file = some line → p.content "Type of Module" ≠ []) :
    p.guess (some file) = p := by
  rw [guess, fillIn_of_ne_nil hlanguage, fillIn_of_ne_nil hmodule]

theorem content_fillIn {guess : Option Text} {line : Text} (h : guess = some line) :
    (p.fillIn name guess).content name ≠ [] := by
  unfold fillIn
  rw [h]
  split
  · show (p.setContent name [line]).content name ≠ []
    rw [content, setContent, Sections.find_set, if_pos rfl]
    simp
  · next hne => simpa using hne

theorem content_fillIn_of_ne {key : Text}
    (h : SectionName.canonical key ≠ SectionName.canonical name) (guess : Option Text) : (p.fillIn name guess).content key = p.content key := by
  rcases fillIn_cases p name guess with hkept | ⟨line, -, hfilled⟩
  · rw [hkept]
  · rw [hfilled, content, setContent, Sections.find_set, if_neg h]
    rfl

/-- What is guessed is there behind the guess. -/
theorem content_guess (p : Prologue) (file : Text) :
    (∀ line, FileKind.language? file = some line →
      (p.guess (some file)).content "Language" ≠ []) ∧
    ∀ line, FileKind.moduleType? file = some line →
      (p.guess (some file)).content "Type of Module" ≠ [] := by
  have hne : SectionName.canonical (Text.ofString "Language") ≠
      SectionName.canonical (Text.ofString "Type of Module") := by decide +kernel
  refine ⟨fun line hline => ?_, fun line hline => content_fillIn hline⟩
  rw [guess, content_fillIn_of_ne hne]
  exact content_fillIn hline

/-- A section with one spelling is read back if it is populated. -/
theorem content_reread (hp : p.Legible) (hname : SectionName.IsLabel name)
    (hslot : slotOf name = name) (h : p.content name ≠ []) : p.reread.content name ≠ [] := by
  rw [content_of_isLabel p hname] at h
  rw [content_of_isLabel p.reread hname, find_reread hp,
    outcome_of_filled (Or.inl hslot) (hp.filled name h)]
  simpa using closed_ne_nil (hp.filled name h)

/-- **A modernised prologue that was read back can be modernised again**: it is an echo still. -/
theorem echo_modernise (hp : p.Sound) (file : Text) (yes : Bool) :
    Echo (p.modernise (some file) yes)
      ((p.modernise (some file) yes).reread.modernise (some file) yes) := by
  have hlegible := (sound_modernise hp (some file) yes).legible
  have hslots : slotOf "Language" = Text.ofString "Language" ∧
      slotOf "Type of Module" = Text.ofString "Type of Module" := by decide +kernel
  obtain ⟨hlanguage, hmodule⟩ := content_guess p file
  have hself := guess_eq_self (p := (p.modernise (some file) yes).reread)
    (fun line hline => content_reread hlegible isLabel_guessed.1 hslots.1 (hlanguage line hline))
    (fun line hline => content_reread hlegible isLabel_guessed.2 hslots.2 (hmodule line hline))
  have hagain : (p.modernise (some file) yes).reread.modernise (some file) yes =
      { (p.modernise (some file) yes).reread with writeDefaults := yes } := by
    rw [modernise_eq (p.modernise (some file) yes).reread, hself]
  rw [hagain]
  exact echo_reread hlegible fun hyes => hyes

end Prologue

end SourcePrologue

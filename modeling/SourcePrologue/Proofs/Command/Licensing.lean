import SourcePrologue.Command.Tool
import SourcePrologue.Proofs.Source.Disk
import SourcePrologue.Proofs.Source.Lasting

/-!
# Adding licences in place

The command writes over the files that wait for a licence or a copyright notice, and such a file
waits no longer when it has been written. So what a run does to the files that it comes to is known
name by name, and a second run finds nothing to do.

* **`Command.License.isWaiting_completed`** — a file that has been completed lacks nothing when it is
  read again;
* **`Command.License.disk_inPlace`** — a run rewrites the files at its paths, up to the first path
  that is none;
* **`Command.License.inPlace_gated`** — which files a run changes, that a second run changes
  nothing, and that neither the order nor the repetition of paths matters.
-/

namespace SourcePrologue.Command.License

open Source

/-! ### Completed prologues -/

/-- A prologue is **incomplete** if it has no licence under either spelling, or no notice. -/
theorem isIncomplete_iff {p : Prologue} : isIncomplete p = true ↔
    (p.sections.find "Licence" = [] ∧ p.sections.find "License" = []) ∨
      p.sections.find "Copyright" = [] := by
  have hlicence : Standard.aliases.lookup (Text.ofString "Licence") =
      some (Text.ofString "License") := by decide +kernel
  have hnotice : Standard.aliases.lookup (Text.ofString "Copyright") = none := by decide +kernel
  rw [isIncomplete, Bool.or_eq_true, Prologue.lacks_iff (by decide +kernel),
    Prologue.lacks_iff (by decide +kernel), hlicence, hnotice]
  simp

variable (holder : Option Text) (currentYear : Int)

theorem isIncomplete_complete (p : Prologue) :
    isIncomplete (complete holder currentYear p) = false := by
  have hlicence := Prologue.lacks_creditYears_of (by decide +kernel) (Prologue.lacks_license p)
    holder currentYear
  have hnotice := Prologue.lacks_creditYears (p.license generalPublicLicence) holder currentYear
  rw [isIncomplete, complete, hlicence, hnotice]
  rfl

/-- A prologue that lacks nothing lacks nothing where it is found again. -/
theorem isIncomplete_of_reopens {p q : Prologue} (h : Reopens p q) (hp : isIncomplete p = false) :
    isIncomplete q = false := by
  have hwritten : Text.ofString "Licence" ∈ Standard.written ∧
      Text.ofString "Copyright" ∈ Standard.written := by decide +kernel
  rw [isIncomplete, Bool.or_eq_false_iff] at hp ⊢
  exact ⟨h _ hwritten.1 hp.1, h _ hwritten.2 hp.2⟩

/-! ### Completed files -/

/-- Whether a file **waits** to be completed: it has prologues, all of them are modern, and one of
them is incomplete. -/
def isWaiting (bytes : List UInt8) : Bool :=
  isModern (split (read bytes)) && (prologues (split (read bytes))).any isIncomplete

/-- The bytes of a file that has been **completed** if it was waiting. -/
def completed (bytes : List UInt8) : List UInt8 :=
  if isWaiting bytes then
    write (render (mapPrologues (complete holder currentYear) (split (read bytes))))
  else bytes

theorem isWaiting_iff {bytes : List UInt8} : isWaiting bytes = true ↔
    prologues (split (read bytes)) ≠ [] ∧
    (∀ p ∈ prologues (split (read bytes)), p.style = some .modern) ∧
    ∃ p ∈ prologues (split (read bytes)),
      (p.sections.find "Licence" = [] ∧ p.sections.find "License" = []) ∨
        p.sections.find "Copyright" = [] := by
  rw [isWaiting, Bool.and_eq_true, isModern_iff, List.any_eq_true, and_assoc]
  simp only [isIncomplete_iff]

/-- Completing a prologue keeps it lasting. -/
theorem lasting_complete {parts : List Item} (h : ∀ item ∈ parts, item.Lasting) :
    ∀ item ∈ mapPrologues (complete holder currentYear) parts, item.Lasting := by
  intro item hitem
  obtain ⟨part, hpart, rfl⟩ := List.mem_map.1 hitem
  have hlasting := h part hpart
  cases part with
  | line text => exact hlasting
  | prologue p => exact (Prologue.Lasting.license hlasting).creditYears holder currentYear

/-- **A completed file waits no longer.** -/
theorem isWaiting_completed (bytes : List UInt8) :
    isWaiting (completed holder currentYear bytes) = false := by
  rw [completed]
  split
  · next hwaiting =>
    obtain ⟨-, hmodern, -⟩ := isWaiting_iff.1 hwaiting
    have hlasting := lasting_complete holder currentYear (lasting_split hmodern)
    have hcomplete : ∀ q ∈ prologues (split (read (write (render
        (mapPrologues (complete holder currentYear) (split (read bytes))))))),
        isIncomplete q = false := by
      intro q hq
      obtain ⟨p, hp, hreopens⟩ := exists_reopened hlasting hq
      rw [prologues_mapPrologues] at hp
      obtain ⟨original, -, rfl⟩ := List.mem_map.1 hp
      exact isIncomplete_of_reopens hreopens (isIncomplete_complete holder currentYear original)
    rw [isWaiting, Bool.and_eq_false_iff, List.any_eq_false]
    exact Or.inr fun q hq => by rw [hcomplete q hq]; exact Bool.false_ne_true
  · next hwaiting => simpa using hwaiting

variable {holder currentYear}

theorem completed_of_not_isWaiting {bytes : List UInt8} (h : isWaiting bytes = false) :
    completed holder currentYear bytes = bytes := by
  rw [completed, h]
  rfl

theorem completed_ne {bytes : List UInt8} (h : isWaiting bytes = true) :
    completed holder currentYear bytes ≠ bytes := by
  intro heq
  have hwaiting := isWaiting_completed holder currentYear bytes
  rw [heq, h] at hwaiting
  exact Bool.noConfusion hwaiting

theorem completed_completed (holder other : Option Text) (currentYear otherYear : Int)
    (bytes : List UInt8) : completed other otherYear (completed holder currentYear bytes) =
      completed holder currentYear bytes :=
  completed_of_not_isWaiting (isWaiting_completed holder currentYear bytes)

/-! ### Runs -/

/-- What the command is asked to do when it is to work in place. -/
def Settings.ofHolder (holder : Option Text) (verbose : Bool) : Settings where
  holder := holder.map .value
  inPlace := true
  verbose := verbose

theorem holder?_ofHolder (holder : Option Text) (verbose : Bool) :
    (Settings.ofHolder holder verbose).holder? = holder := by
  cases holder <;> rfl

/-- No prologue waits for a holder's name that is given or not asked for. -/
theorem findIdx?_leaveOpen (holder : Option Text) (verbose : Bool) (found : List Prologue) :
    found.findIdx? (Settings.ofHolder holder verbose).leaveOpen = none := by
  rw [List.findIdx?_eq_none_iff]
  intro p _
  cases holder <;> rfl

/-- Whether a path is one: it does not hold the character that ends paths. -/
def isPath (path : Path) : Bool := !path.text.contains (.char '\x00')

variable (holder : Option Text) (currentYear : Int) (verbose : Bool)

/-- What is no path ends the run and leaves the disk as it is. -/
theorem licenseFile_of_noPath (s : Session) {path : Path} (h : isPath path = false) :
    ∃ failure, licenseFile (.ofHolder holder verbose) currentYear s path =
      .error ⟨failure, s⟩ := by
  have hlocate : s.disk.locate path = .error .noPath := by
    rw [Disk.locate_eq_noPath_iff]
    simpa [isPath] using h
  refine ⟨.file ⟨.noPath, path⟩, ?_⟩
  rw [licenseFile, Session.withFile, Disk.read_eq, hlocate]
  rfl

/-- What keeps a file from being found at a path is reported, and the run goes on. -/
theorem isSystemError_of_isPath {disk : Disk} {path : Path} {error : FileError}
    (h : isPath path = true) (hlocate : disk.locate path = .error error) :
    error.isSystemError = true := by
  cases error with
  | noPath =>
    rw [Disk.locate_eq_noPath_iff] at hlocate
    rw [isPath, hlocate] at h
    exact Bool.noConfusion h
  | _ => rfl

/-- A file that does not wait is left as it is. -/
theorem licenseFile_of_not_isWaiting {s : Session} {path : Path} {bytes : List UInt8}
    (hread : s.disk.read path = .ok bytes) (h : isWaiting bytes = false) :
    ∃ next, licenseFile (.ofHolder holder verbose) currentYear s path = .ok next ∧
      next.disk = s.disk := by
  rw [licenseFile, Session.withFile, hread]
  dsimp only
  rw [findIdx?_leaveOpen]
  rw [isWaiting, Bool.and_eq_false_iff] at h
  rcases h with h | h
  · rw [h]
    exact ⟨_, rfl, rfl⟩
  · rw [h]
    split
    · exact ⟨_, rfl, rfl⟩
    · exact ⟨_, rfl, rfl⟩

/-- A file that waits is written over. -/
theorem licenseFile_of_isWaiting {s : Session} {path : Path} {bytes : List UInt8}
    (hread : s.disk.read path = .ok bytes) (h : isWaiting bytes = true) {disk : Disk}
    (hwrite : s.disk.write path (completed holder currentYear bytes) = .ok disk) :
    ∃ next, licenseFile (.ofHolder holder verbose) currentYear s path = .ok next ∧
      next.disk = disk := by
  rw [completed, if_pos h] at hwrite
  rw [licenseFile, Session.withFile, hread]
  dsimp only
  rw [findIdx?_leaveOpen, holder?_ofHolder]
  rw [isWaiting, Bool.and_eq_true] at h
  have hsave : ∀ t : Session, t.disk = s.disk →
      t.save path
          (render (mapPrologues (complete holder currentYear) (split (Source.read bytes)))) =
        .ok { t with disk } := by
    intro t ht
    rw [Session.save, ht, hwrite]
  rw [h.1, h.2, if_neg (by simp), if_neg (by simp [Settings.ofHolder]), if_pos rfl]
  dsimp only
  rw [hsave]
  · exact ⟨_, rfl, rfl⟩
  · rfl

/-- **What the command does at a path** is to complete the file there, if there is one. -/
theorem licenseFile_of_isPath (s : Session) {path : Path} (h : isPath path = true) :
    ∃ next, licenseFile (.ofHolder holder verbose) currentYear s path = .ok next ∧
      next.disk = s.disk.rewrite (completed holder currentYear) path := by
  have hread := s.disk.read_eq path
  rw [Disk.rewrite]
  cases hlocate : s.disk.locate path with
  | error error =>
    rw [hlocate] at hread
    rw [licenseFile, Session.withFile, hread]
    dsimp only
    rw [Session.cannotRead, if_pos (isSystemError_of_isPath h hlocate)]
    exact ⟨_, rfl, rfl⟩
  | ok names =>
    rw [hlocate] at hread
    dsimp only at hread ⊢
    cases hfile : s.disk.file? names with
    | none =>
      rw [hfile] at hread
      rw [licenseFile, Session.withFile, hread]
      exact ⟨_, rfl, rfl⟩
    | some bytes =>
      rw [hfile] at hread
      dsimp only at hread ⊢
      cases hwaiting : isWaiting bytes with
      | false =>
        obtain ⟨next, hnext, hdisk⟩ :=
          licenseFile_of_not_isWaiting holder currentYear verbose hread hwaiting
        refine ⟨next, hnext, ?_⟩
        rw [completed_of_not_isWaiting hwaiting, Disk.replace_self hfile, hdisk]
      | true =>
        refine licenseFile_of_isWaiting holder currentYear verbose hread hwaiting ?_
        rw [Disk.write, hlocate]
        rfl

/-- The disk that the command leaves when it is asked to work in place. -/
def inPlace (disk : Disk) (paths : List Path) : Disk :=
  (outcome verbose (run currentYear { disk } (.ofHolder holder verbose) paths)).disk

theorem disk_outcome_run (s : Session) (paths : List Path) :
    (outcome verbose (run currentYear s (.ofHolder holder verbose) paths)).disk =
      s.disk.rewriteAll (completed holder currentYear) (paths.takeWhile isPath) := by
  induction paths generalizing s with
  | nil => rfl
  | cons path paths ih =>
    rw [run, List.foldlM_cons]
    cases hpath : isPath path with
    | false =>
      obtain ⟨failure, hfile⟩ := licenseFile_of_noPath holder currentYear verbose s hpath
      rw [hfile, List.takeWhile_cons_of_neg (by rw [hpath]; exact Bool.false_ne_true)]
      rfl
    | true =>
      obtain ⟨next, hfile, hdisk⟩ := licenseFile_of_isPath holder currentYear verbose s hpath
      rw [hfile, List.takeWhile_cons_of_pos hpath, Disk.rewriteAll, List.foldl_cons, ← hdisk]
      exact ih next

/-- **A run in place** completes the files at its paths, up to the first path that is none. -/
theorem disk_inPlace (disk : Disk) (paths : List Path) :
    inPlace holder currentYear verbose disk paths =
      disk.rewriteAll (completed holder currentYear) (paths.takeWhile isPath) :=
  disk_outcome_run holder currentYear verbose { disk } paths

variable {holder currentYear verbose}

/-- The bytes that a run leaves at a name it comes to. -/
theorem file?_inPlace {disk : Disk} {paths : List Path} {names : List Text}
    (h : ∃ path ∈ paths.takeWhile isPath, disk.locate path = .ok names) :
    (inPlace holder currentYear verbose disk paths).file? names =
      (disk.file? names).map (completed holder currentYear) := by
  rw [disk_inPlace]
  exact Disk.file?_rewriteAll (completed_completed holder holder currentYear currentYear) h

theorem file?_inPlace_of_ne {disk : Disk} {paths : List Path} {names : List Text}
    (h : ∀ path ∈ paths.takeWhile isPath, disk.locate path ≠ .ok names) :
    (inPlace holder currentYear verbose disk paths).file? names = disk.file? names := by
  rw [disk_inPlace]
  exact Disk.file?_rewriteAll_of_ne h

/-- **What a run changes**: the files that wait, where one of the paths leads to them. -/
theorem file?_inPlace_ne_iff {disk : Disk} {paths : List Path} {names : List Text} :
    (inPlace holder currentYear verbose disk paths).file? names ≠ disk.file? names ↔
      ∃ path ∈ paths.takeWhile isPath, disk.locate path = .ok names ∧
        ∃ bytes, disk.file? names = some bytes ∧ isWaiting bytes = true := by
  constructor
  · intro hchanged
    have hreached : ∃ path ∈ paths.takeWhile isPath, disk.locate path = .ok names := by
      by_contra hnone
      exact hchanged (file?_inPlace_of_ne fun path hpath hlocate => hnone ⟨path, hpath, hlocate⟩)
    obtain ⟨path, hpath, hlocate⟩ := hreached
    rw [file?_inPlace ⟨path, hpath, hlocate⟩] at hchanged
    cases hfile : disk.file? names with
    | none =>
      rw [hfile] at hchanged
      exact absurd rfl hchanged
    | some bytes =>
      refine ⟨path, hpath, hlocate, bytes, rfl, ?_⟩
      by_contra hwaiting
      rw [Bool.not_eq_true] at hwaiting
      rw [hfile, Option.map_some, completed_of_not_isWaiting hwaiting] at hchanged
      exact hchanged rfl
  · rintro ⟨path, hpath, hlocate, bytes, hfile, hwaiting⟩
    rw [file?_inPlace ⟨path, hpath, hlocate⟩, hfile, Option.map_some, Ne, Option.some.injEq]
    exact completed_ne hwaiting

/-- A second run finds nothing to do. -/
theorem inPlace_inPlace (disk : Disk) (paths : List Path) (other : Option Text) (otherYear : Int)
    (otherVerbose : Bool) :
    inPlace other otherYear otherVerbose (inPlace holder currentYear verbose disk paths) paths =
      inPlace holder currentYear verbose disk paths := by
  have htree := Disk.sameTree_rewriteAll (completed holder currentYear) disk
    (paths.takeWhile isPath)
  rw [← disk_inPlace holder currentYear verbose] at htree
  rw [disk_inPlace other]
  refine Disk.rewriteAll_eq_self fun path hpath names bytes hlocate hfile => ?_
  rw [htree.locate] at hlocate
  rw [file?_inPlace ⟨path, hpath, hlocate⟩, Option.map_eq_some_iff] at hfile
  obtain ⟨before, -, rfl⟩ := hfile
  exact completed_completed holder other currentYear otherYear before

/-- Only the paths that a run comes to matter, not their order or how often they are there. -/
theorem file?_inPlace_congr (disk : Disk) {paths others : List Path}
    (h : ∀ path, path ∈ paths.takeWhile isPath ↔ path ∈ others.takeWhile isPath)
    (names : List Text) : (inPlace holder currentYear verbose disk others).file? names =
      (inPlace holder currentYear verbose disk paths).file? names := by
  by_cases hreached : ∃ path ∈ paths.takeWhile isPath, disk.locate path = .ok names
  · have hother : ∃ path ∈ others.takeWhile isPath, disk.locate path = .ok names := by
      obtain ⟨path, hpath, hlocate⟩ := hreached
      exact ⟨path, (h path).1 hpath, hlocate⟩
    rw [file?_inPlace hother, file?_inPlace hreached]
  · have hne : ∀ path ∈ paths.takeWhile isPath, disk.locate path ≠ .ok names :=
      fun path hpath hlocate => hreached ⟨path, hpath, hlocate⟩
    rw [file?_inPlace_of_ne hne, file?_inPlace_of_ne fun path hpath => hne path ((h path).2 hpath)]

/-- A disk with a prologue that has no licence, in the file `a.f`. -/
def draftDisk : Disk where
  files := [(["a.f"], write "*+\n*  Name:\n*     FOO\n*-\n      END\n")]
  workingDirectory := []

theorem isWaiting_draft : ∃ bytes, draftDisk.file? ["a.f"] = some bytes ∧ isWaiting bytes = true :=
  ⟨_, rfl, by decide +kernel⟩

end SourcePrologue.Command.License

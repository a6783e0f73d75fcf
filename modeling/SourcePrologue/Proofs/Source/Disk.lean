import Mathlib.Data.List.Basic
import SourcePrologue.Source.Disk

/-!
# Rewriting files

A file that is on a disk can be written anew without changing where any path leads. So the files
that a row of paths leads to can be rewritten one after another, and what comes of it is known for
every name on the disk.

* **`Disk.SameTree`** — disks with the same names on them: paths lead to the same places
  (`SameTree.locate`);
* **`Disk.sameTree_rewrite`**, **`Disk.file?_rewrite`** — what rewriting one file does;
* **`Disk.file?_rewriteAll`** — what rewriting many does, if doing it again to a file is of no
  effect;
* **`Disk.rewriteAll_eq_self`** — files that are as rewriting leaves them stay as they are.
-/

namespace SourcePrologue.Disk

/-! ### Files by their names -/

theorem lookup_cons_of_ne {f : List Text × List UInt8} {names : List Text} (h : names ≠ f.1)
    (files : List (List Text × List UInt8)) : (f :: files).lookup names = files.lookup names := by
  rw [List.lookup_cons, beq_eq_false_iff_ne.2 h]

theorem lookup_replace (names : List Text) (bytes : List UInt8)
    (files : List (List Text × List UInt8)) (other : List Text) :
    (replace names bytes files).lookup other =
      if other = names then some bytes else files.lookup other := by
  by_cases hother : other = names
  · rw [if_pos hother, hother]
    induction files with
    | nil => exact List.lookup_cons_self
    | cons f files ih =>
      rw [replace]
      split
      · exact List.lookup_cons_self
      · next hf => rw [lookup_cons_of_ne (Ne.symm hf), ih]
  · rw [if_neg hother]
    induction files with
    | nil => exact lookup_cons_of_ne hother []
    | cons f files ih =>
      rw [replace]
      split
      · next hf => rw [lookup_cons_of_ne hother, lookup_cons_of_ne (by rw [hf]; exact hother)]
      · rw [List.lookup_cons, List.lookup_cons, ih]

/-- A file that is there is replaced where it stands. -/
theorem keys_replace {names : List Text} {files : List (List Text × List UInt8)}
    (h : (files.lookup names).isSome = true) (bytes : List UInt8) :
    (replace names bytes files).map Prod.fst = files.map Prod.fst := by
  induction files with
  | nil => exact absurd h (by simp)
  | cons f files ih =>
    rw [replace]
    split
    · next hf => rw [List.map_cons, List.map_cons, hf]
    · next hf =>
      have hrest : (files.lookup names).isSome = true := by
        rwa [lookup_cons_of_ne (Ne.symm hf)] at h
      rw [List.map_cons, List.map_cons, ih hrest]

/-- A file with the bytes that it has already is the same file. -/
theorem replace_self {names : List Text} {bytes : List UInt8}
    {files : List (List Text × List UInt8)} (h : files.lookup names = some bytes) :
    replace names bytes files = files := by
  induction files with
  | nil => exact absurd h (by simp)
  | cons f files ih =>
    obtain ⟨key, held⟩ := f
    rw [replace]
    split
    · next hf =>
      rw [← hf, List.lookup_cons_self, Option.some.injEq] at h
      rw [← h, ← hf]
    · next hf =>
      rw [lookup_cons_of_ne (Ne.symm hf)] at h
      rw [ih h]

/-! ### Disks with the same names -/

/-- Disks with the **same names** on them, whatever the bytes in the files. -/
structure SameTree (disk other : Disk) : Prop where
  files : other.files.map Prod.fst = disk.files.map Prod.fst
  directories : other.directories = disk.directories
  workingDirectory : other.workingDirectory = disk.workingDirectory

variable {disk other : Disk}

theorem SameTree.refl (disk : Disk) : SameTree disk disk := ⟨rfl, rfl, rfl⟩

theorem SameTree.trans {third : Disk} (h : SameTree disk other) (h' : SameTree other third) :
    SameTree disk third :=
  ⟨h'.files.trans h.files, h'.directories.trans h.directories,
    h'.workingDirectory.trans h.workingDirectory⟩

theorem SameTree.isSome_file? (h : SameTree disk other) (names : List Text) :
    (other.file? names).isSome = (disk.file? names).isSome := by
  have hkeys : ∀ disk : Disk, (disk.file? names).isSome = true ↔
      names ∈ disk.files.map Prod.fst := by
    intro disk
    rw [file?, List.lookup_isSome_iff, List.mem_map]
    simp only [beq_iff_eq]
    exact ⟨fun ⟨f, hf, hname⟩ => ⟨f, hf, hname.symm⟩, fun ⟨f, hf, hname⟩ => ⟨f, hf, hname.symm⟩⟩
  rw [Bool.eq_iff_iff, hkeys, hkeys, h.files]

theorem SameTree.isDirectory (h : SameTree disk other) (names : List Text) :
    other.isDirectory names = disk.isDirectory names := by
  have hkeys : ∀ disk : Disk, (disk.files.any fun f => names.isPrefixOf f.1 && f.1 != names) =
      (disk.files.map Prod.fst).any fun key => names.isPrefixOf key && key != names := by
    intro disk
    rw [List.any_map]
    rfl
  rw [Disk.isDirectory, Disk.isDirectory, hkeys, hkeys, h.files, h.directories, h.workingDirectory]

theorem SameTree.walk (h : SameTree disk other) (names here : List Text) :
    other.walk here names = disk.walk here names := by
  induction names generalizing here with
  | nil => rfl
  | cons name rest ih =>
    rw [Disk.walk, Disk.walk, h.isDirectory, h.isSome_file?, ih, ih]

/-- **Paths lead to the same places** on disks with the same names. -/
theorem SameTree.locate (h : SameTree disk other) (path : Path) :
    other.locate path = disk.locate path := by
  simp only [Disk.locate, h.workingDirectory, h.walk, h.isDirectory]

/-! ### Reading -/

theorem read_eq (disk : Disk) (path : Path) : disk.read path =
    match disk.locate path with
    | .error error => .error error
    | .ok names =>
      match disk.file? names with
      | some bytes => .ok bytes
      | none => .error .notFound := by
  rw [read]
  cases disk.locate path <;> rfl

theorem walk_ne_noPath (disk : Disk) (names here : List Text) :
    disk.walk here names ≠ .error .noPath := by
  induction names generalizing here with
  | nil => simp [walk]
  | cons name rest ih =>
    rw [walk]
    split
    · split
      · simp
      · simp
    · split
      · exact ih _
      · split
        · simp
        · exact ih _

/-- What is no path holds the character that ends paths. -/
theorem locate_eq_noPath_iff (disk : Disk) (path : Path) :
    disk.locate path = .error .noPath ↔ path.text.contains (.char '\x00') = true := by
  rw [locate]
  split
  · next hpath => exact iff_of_true rfl hpath
  · next hpath =>
    refine iff_of_false ?_ hpath
    split
    · simp
    · cases hwalk :
          disk.walk (if path.root.isEmpty then disk.workingDirectory else []) path.names with
      | error error =>
        intro h
        exact disk.walk_ne_noPath _ _ (hwalk.trans h)
      | ok names =>
        show (if disk.isDirectory names = true then Except.error FileError.isDirectory
          else .ok names) ≠ _
        split
        · simp
        · simp

/-! ### Rewriting -/

/-- The disk with the file at a path **rewritten**, if there is one. -/
def rewrite (f : List UInt8 → List UInt8) (disk : Disk) (path : Path) : Disk :=
  match disk.locate path with
  | .error _ => disk
  | .ok names =>
    match disk.file? names with
    | none => disk
    | some bytes => { disk with files := replace names (f bytes) disk.files }

/-- The disk with the files at paths rewritten one after another. -/
def rewriteAll (f : List UInt8 → List UInt8) (disk : Disk) (paths : List Path) : Disk :=
  paths.foldl (rewrite f) disk

variable {f : List UInt8 → List UInt8}

theorem sameTree_rewrite (f : List UInt8 → List UInt8) (disk : Disk) (path : Path) :
    SameTree disk (disk.rewrite f path) := by
  rw [rewrite]
  split
  · exact SameTree.refl disk
  · next names hlocate =>
    split
    · exact SameTree.refl disk
    · next bytes hfile =>
      have hsome : (disk.files.lookup names).isSome = true := Option.isSome_of_eq_some hfile
      exact ⟨keys_replace hsome (f bytes), rfl, rfl⟩

theorem sameTree_rewriteAll (f : List UInt8 → List UInt8) (disk : Disk) (paths : List Path) :
    SameTree disk (disk.rewriteAll f paths) := by
  induction paths generalizing disk with
  | nil => exact SameTree.refl disk
  | cons path paths ih => exact (sameTree_rewrite f disk path).trans (ih _)

/-- **Rewriting a file** does it to the bytes at its names. -/
theorem file?_rewrite {path : Path} {names : List Text} (h : disk.locate path = .ok names) :
    (disk.rewrite f path).file? names = (disk.file? names).map f := by
  rw [rewrite, h]
  dsimp only
  split
  · next hfile => rw [hfile, Option.map_none]
  · next bytes hfile => rw [file?, lookup_replace, if_pos rfl, hfile, Option.map_some]

/-- Rewriting a file leaves all other files alone. -/
theorem file?_rewrite_of_ne {path : Path} {names : List Text} (h : disk.locate path ≠ .ok names) :
    (disk.rewrite f path).file? names = disk.file? names := by
  rw [rewrite]
  split
  · rfl
  · next found hlocate =>
    have hne : names ≠ found := fun heq => h (by rw [hlocate, heq])
    split
    · rfl
    · rw [file?, lookup_replace, if_neg hne, file?]

/-- A file that already is as rewriting leaves it is not changed. -/
theorem rewrite_eq_self {path : Path} (h : ∀ names bytes, disk.locate path = .ok names →
    disk.file? names = some bytes → f bytes = bytes) : disk.rewrite f path = disk := by
  rw [rewrite]
  split
  · rfl
  · next names hlocate =>
    split
    · rfl
    · next bytes hfile =>
      have hlookup : disk.files.lookup names = some bytes := hfile
      rw [h names bytes hlocate hfile, replace_self hlookup]

theorem rewriteAll_eq_self {paths : List Path} (h : ∀ path ∈ paths, ∀ names bytes,
    disk.locate path = .ok names → disk.file? names = some bytes → f bytes = bytes) :
    disk.rewriteAll f paths = disk := by
  induction paths with
  | nil => rfl
  | cons path paths ih =>
    rw [rewriteAll, List.foldl_cons, rewrite_eq_self (h path List.mem_cons_self), ← rewriteAll]
    exact ih fun p hp => h p (List.mem_cons_of_mem path hp)

/-- Files that no path leads to are left alone. -/
theorem file?_rewriteAll_of_ne {paths : List Path} {names : List Text}
    (h : ∀ path ∈ paths, disk.locate path ≠ .ok names) :
    (disk.rewriteAll f paths).file? names = disk.file? names := by
  induction paths generalizing disk with
  | nil => rfl
  | cons path paths ih =>
    have hsame := sameTree_rewrite f disk path
    rw [rewriteAll, List.foldl_cons, ← rewriteAll,
      ih fun p hp => by rw [hsame.locate]; exact h p (List.mem_cons_of_mem path hp)]
    exact file?_rewrite_of_ne (h path List.mem_cons_self)

/-- **Rewriting files** does it to the bytes at the names that some path leads to, however many do,
if doing it again to a file is of no effect. -/
theorem file?_rewriteAll (hf : ∀ bytes, f (f bytes) = f bytes) {paths : List Path}
    {names : List Text} (h : ∃ path ∈ paths, disk.locate path = .ok names) :
    (disk.rewriteAll f paths).file? names = (disk.file? names).map f := by
  induction paths generalizing disk with
  | nil => exact absurd h (by simp)
  | cons path paths ih =>
    have hsame := sameTree_rewrite f disk path
    rw [rewriteAll, List.foldl_cons, ← rewriteAll]
    by_cases hrest : ∃ p ∈ paths, disk.locate p = .ok names
    · rw [ih (by simpa only [hsame.locate] using hrest)]
      by_cases hpath : disk.locate path = .ok names
      · rw [file?_rewrite hpath, Option.map_map, show f ∘ f = f from funext hf]
      · rw [file?_rewrite_of_ne hpath]
    · have hpath : disk.locate path = .ok names := by
        obtain ⟨p, hp, hlocate⟩ := h
        rcases List.mem_cons.1 hp with rfl | hp
        · exact hlocate
        · exact absurd ⟨p, hp, hlocate⟩ hrest
      have hne : ∀ p ∈ paths, (disk.rewrite f path).locate p ≠ .ok names := by
        intro p hp hlocate
        rw [hsame.locate] at hlocate
        exact hrest ⟨p, hp, hlocate⟩
      rw [file?_rewriteAll_of_ne hne, file?_rewrite hpath]

end SourcePrologue.Disk

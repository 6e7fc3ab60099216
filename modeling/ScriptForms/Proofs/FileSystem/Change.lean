import ScriptForms.Proofs.FileSystem.Lookup

/-!
# What a change of the files leaves alone

Creating directories touches no regular file, not even where it breaks off half way
(`sameFilesExcept_makeDirectories`). Writing bytes to a file either fails and changes nothing, or
puts the bytes at the location that the path leads to, before the write as after it, and touches no
other regular file (`write_cases`, `locate_put`).

Nearly all failures are reports of the system. A null character in the path is noticed before the
system is asked, and without one every failure to create directories or to write bytes is a report.
-/

namespace ScriptForms.FileSystem

/-- Apart from the given locations, there are the same regular files with the same contents. -/
def SameFilesExcept (changed : List Location) (fs fs' : FileSystem) : Prop :=
  ∀ location, location ∉ changed → ∀ entry, entry ≠ .directory →
    (fs'.entryAt? location = some entry ↔ fs.entryAt? location = some entry)

namespace SameFilesExcept

theorem refl (changed : List Location) (fs : FileSystem) : SameFilesExcept changed fs fs :=
  fun _ _ _ _ ↦ Iff.rfl

/-- A change that touches no file may come before any other one. -/
theorem trans {changed : List Location} {fs fs' fs'' : FileSystem} (h : SameFilesExcept [] fs fs')
    (h' : SameFilesExcept changed fs' fs'') : SameFilesExcept changed fs fs'' :=
  fun location hlocation entry hentry ↦
    (h' location hlocation entry hentry).trans (h location List.not_mem_nil entry hentry)

end SameFilesExcept

/-! ### Changes one after the other -/

namespace Change

variable {first : Change}

theorem andThen_of_none (h : first.error? = none) (next : FileSystem → Change) :
    first.andThen next = next first.files := by
  rw [andThen, h]

theorem andThen_of_some {e : SystemError} (h : first.error? = some e)
    (next : FileSystem → Change) : first.andThen next = first := by
  rw [andThen, h]

/-- It does not matter how changes are put together. -/
theorem andThen_assoc (first : Change) (next last : FileSystem → Change) :
    (first.andThen next).andThen last = first.andThen fun fs ↦ (next fs).andThen last := by
  cases h : first.error? with
  | none => rw [andThen_of_none h, andThen_of_none h]
  | some e => rw [andThen_of_some h, andThen_of_some h, andThen_of_some h]

end Change

/-! ### Entries -/

section Entries

variable {fs : FileSystem} {location other : Location} {entry : FileEntry}

/-- Only what is listed is a regular file. -/
theorem entryAt?_eq_file_iff (hentry : entry ≠ .directory) :
    fs.entryAt? location = some entry ↔ fs.entries.lookup location = some entry := by
  rw [entryAt?]
  cases fs.entries.lookup location with
  | some found => rfl
  | none =>
    dsimp only
    split
    · simpa using hentry.symm
    · rfl

/-- A directory is listed, or lies above something that is, or above or at the working directory. -/
theorem entryAt?_eq_directory_iff :
    fs.entryAt? location = some .directory ↔
      fs.entries.lookup location = some .directory ∨ fs.entries.lookup location = none ∧
        (location <+: fs.workingDirectory ∨ ∃ existing ∈ fs.entries, location <+: existing.1) := by
  rw [entryAt?]
  cases fs.entries.lookup location with
  | some entry => simp
  | none =>
    by_cases hcwd : location <+: fs.workingDirectory
    · simp [hcwd]
    · simp [hcwd]

theorem lookup_put_self (fs : FileSystem) (location : Location) (entry : FileEntry) :
    (fs.put location entry).entries.lookup location = some entry := by
  have hnone :
      (fs.entries.filter fun existing ↦ existing.1 != location).lookup location = none := by
    rw [List.lookup_eq_none_iff]
    intro existing hexisting
    have hne := (List.mem_filter.1 hexisting).2
    simpa [bne_comm] using hne
  rw [put, List.lookup_append, hnone, Option.none_or, List.lookup_cons_self]

theorem lookup_put_of_ne (hne : other ≠ location) :
    (fs.put location entry).entries.lookup other = fs.entries.lookup other := by
  have hfilter (entries : List (Location × FileEntry)) :
      (entries.filter fun existing ↦ existing.1 != location).lookup other =
        entries.lookup other := by
    induction entries with
    | nil => rfl
    | cons existing rest ih =>
      by_cases hexisting : existing.1 = location
      · have hother : (other == existing.1) = false := by simp [hexisting, hne]
        rw [List.filter_cons_of_neg (by simp [hexisting]), ih, List.lookup_cons, hother]
      · rw [List.filter_cons_of_pos (by simp [hexisting]), List.lookup_cons, List.lookup_cons, ih]
  have hsingle : List.lookup other [(location, entry)] = none := by
    rw [List.lookup_cons, beq_eq_false_iff_ne.2 hne, List.lookup_nil]
  rw [put, List.lookup_append, hfilter, hsingle, Option.or_none]

theorem entryAt?_put_self (fs : FileSystem) (location : Location) (entry : FileEntry) :
    (fs.put location entry).entryAt? location = some entry := by
  rw [entryAt?, lookup_put_self]

/-- What is put at a location touches no file elsewhere. -/
theorem sameFilesExcept_put (fs : FileSystem) (location : Location) (entry : FileEntry) :
    SameFilesExcept [location] fs (fs.put location entry) := by
  intro other hother found hfound
  rw [entryAt?_eq_file_iff hfound, entryAt?_eq_file_iff hfound,
    lookup_put_of_ne (by simpa using hother)]

/-- What is put at a location destroys no directory elsewhere. A directory that is there because of
what lies below it keeps the location below it. -/
theorem entryAt?_put_of_directory (hne : other ≠ location)
    (h : fs.entryAt? other = some .directory) :
    (fs.put location entry).entryAt? other = some .directory := by
  rw [entryAt?_eq_directory_iff] at h ⊢
  rw [lookup_put_of_ne hne]
  refine h.imp_right (And.imp_right (Or.imp_right ?_))
  rintro ⟨existing, hexisting, hpre⟩
  by_cases hlocation : existing.1 = location
  · exact ⟨(location, entry), List.mem_append_right _ List.mem_cons_self, hlocation ▸ hpre⟩
  · refine ⟨existing, List.mem_append_left _ (List.mem_filter.2 ⟨hexisting, ?_⟩), hpre⟩
    simpa using hlocation

end Entries

/-! ### Directories -/

section MakeDirectory

variable {fs : FileSystem} {path : Path}

/-- A path that leads nowhere has no directory to be created. -/
theorem makeDirectory_of_locate_error {failure : SystemFailure}
    (h : fs.locate path = .error failure) : fs.makeDirectory path = .error failure := by
  rw [makeDirectory, h]
  rfl

/-- What may become of the attempt to create a directory at a location. It succeeds only where there
is nothing. -/
theorem makeDirectory_of_locate_ok {location : Location} (h : fs.locate path = .ok location) :
    fs.makeDirectory path = .error .alreadyExists ∨ fs.makeDirectory path = .error .notFound ∨
      fs.makeDirectory path = .error .notDirectory ∨
        fs.entryAt? location = none ∧ fs.makeDirectory path = .ok (fs.put location .directory) := by
  rw [makeDirectory, h]
  dsimp only [bind, Except.bind]
  cases fs.entryAt? location with
  | some entry => exact .inl rfl
  | none =>
    refine .inr ?_
    dsimp only
    cases fs.entryAt? location.dropLast with
    | none => exact .inl rfl
    | some above =>
      cases above with
      | directory => exact .inr (.inr ⟨rfl, rfl⟩)
      | _ => exact .inr (.inl rfl)

/-- A new directory is put where there was nothing, so it touches no file. -/
theorem sameFilesExcept_of_makeDirectory {made : FileSystem}
    (h : fs.makeDirectory path = .ok made) :
    SameFilesExcept [] fs made := by
  cases hlocate : fs.locate path with
  | error failure => cases (makeDirectory_of_locate_error hlocate).symm.trans h
  | ok location =>
    obtain hmake | hmake | hmake | ⟨hentry, hmake⟩ := makeDirectory_of_locate_ok hlocate
    · cases hmake.symm.trans h
    · cases hmake.symm.trans h
    · cases hmake.symm.trans h
    · cases hmake.symm.trans h
      intro other _ entry hne
      by_cases hother : other = location
      · rw [hother, entryAt?_put_self, hentry]
        simpa using hne.symm
      · exact sameFilesExcept_put fs location .directory other (by simpa using hother) entry hne

end MakeDirectory

/-- Whether it has to be created or not, a directory touches no file. -/
theorem sameFilesExcept_ensureDirectory (fs : FileSystem) (path : Path) :
    SameFilesExcept [] fs (fs.ensureDirectory path).files := by
  rw [ensureDirectory]
  cases hmake : fs.makeDirectory path with
  | ok made => exact sameFilesExcept_of_makeDirectory hmake
  | error failure =>
    dsimp only
    split <;> exact .refl [] fs

/-- What comes first touches no file, so that only what comes next counts. -/
theorem SameFilesExcept.andThen {changed : List Location} {fs : FileSystem} {first : Change}
    {next : FileSystem → Change} (hfirst : SameFilesExcept [] fs first.files)
    (hnext : first.error? = none → SameFilesExcept changed first.files (next first.files).files) :
    SameFilesExcept changed fs (first.andThen next).files := by
  cases herror : first.error? with
  | some e =>
    rw [Change.andThen_of_some herror]
    exact hfirst.trans (.refl changed _)
  | none =>
    rw [Change.andThen_of_none herror]
    exact hfirst.trans (hnext herror)

/-- By induction on the number of directories above, which are created one after the other. -/
theorem sameFilesExcept_makeDirectoriesWithin (depth : Nat) (fs : FileSystem) (path : Path) :
    SameFilesExcept [] fs (makeDirectoriesWithin depth fs path).files := by
  induction depth generalizing path with
  | zero => exact sameFilesExcept_ensureDirectory fs path
  | succ depth ih =>
    rw [makeDirectoriesWithin]
    split
    · exact (ih path.parent).andThen fun _ ↦ sameFilesExcept_ensureDirectory _ path
    · exact sameFilesExcept_ensureDirectory fs path

/-- Creating directories touches no regular file, whether it succeeds or not. -/
theorem sameFilesExcept_makeDirectories (fs : FileSystem) (path : Path) :
    SameFilesExcept [] fs (fs.makeDirectories path).files :=
  sameFilesExcept_makeDirectoriesWithin _ fs path

/-! ### Files -/

/-- A write fails and changes nothing, or puts the contents at the location of the path. -/
theorem write_cases (fs : FileSystem) (path : Path) (bytes : List UInt8) :
    (∃ failure, fs.write path bytes = ⟨fs, some ⟨failure, path⟩⟩) ∨
      ∃ location, fs.locate path = .ok location ∧ fs.entryAt? location ≠ some .directory ∧
        fs.write path bytes = ⟨fs.put location (.file bytes), none⟩ := by
  rw [write]
  cases hlocate : fs.locate path with
  | error failure => exact .inl ⟨failure, rfl⟩
  | ok location =>
    dsimp only
    cases hentry : fs.entryAt? location with
    | some entry =>
      cases entry with
      | directory => exact .inl ⟨.isDirectory, rfl⟩
      | locked refusal => exact .inl ⟨.refused refusal, rfl⟩
      | file old => exact .inr ⟨location, rfl, by simp [hentry], rfl⟩
    | none =>
      dsimp only
      split
      · exact .inr ⟨location, rfl, by simp [hentry], rfl⟩
      · exact .inl ⟨.notDirectory, rfl⟩
      · exact .inl ⟨.notFound, rfl⟩

/-- A path that leads to a location leads there after something was put there, if it was no
directory. -/
theorem locate_put {fs : FileSystem} {path : Path} {location : Location} {entry : FileEntry}
    (hlocate : fs.locate path = .ok location) (hentry : fs.entryAt? location ≠ some .directory) :
    (fs.put location entry).locate path = .ok location := by
  have hmore (other : Location) (hother : fs.entryAt? other = some .directory) :
      (fs.put location entry).entryAt? other = some .directory := by
    refine entryAt?_put_of_directory ?_ hother
    rintro rfl
    exact hentry hother
  have hcwd : (fs.put location entry).workingDirectory = fs.workingDirectory := rfl
  exact locate_mono hcwd hmore hlocate

/-! ### Failures that the system does not report -/

section Reports

variable {fs : FileSystem} {path : Path} {failure : SystemFailure}

theorem makeDirectory_of_hasNull (hnull : path.hasNull = true) :
    fs.makeDirectory path = .error .nullCharacter :=
  makeDirectory_of_locate_error (locate_of_hasNull hnull)

/-- Without a null character, the system reports why it creates no directory. -/
theorem isReported_of_makeDirectory (hnull : path.hasNull = false)
    (h : fs.makeDirectory path = .error failure) : failure.isReported = true := by
  cases hlocate : fs.locate path with
  | error cause =>
    rw [makeDirectory_of_locate_error hlocate] at h
    cases h
    exact isReported_of_locate hnull hlocate
  | ok location =>
    obtain hmake | hmake | hmake | ⟨-, hmake⟩ := makeDirectory_of_locate_ok hlocate <;>
      cases hmake.symm.trans h <;> rfl

/-- A path with a null character leads to no directory that could be there already. -/
theorem error?_ensureDirectory_of_hasNull (hnull : path.hasNull = true) :
    (fs.ensureDirectory path).error? = some ⟨.nullCharacter, path⟩ := by
  have hdirectory : fs.isDirectory path = false := by
    rw [isDirectory, lookup?, locate_of_hasNull hnull]
    rfl
  rw [ensureDirectory, makeDirectory_of_hasNull hnull]
  exact congrArg Change.error? (if_neg (by simp [hdirectory]))

theorem isReported_of_ensureDirectory {e : SystemError} (hnull : path.hasNull = false)
    (h : (fs.ensureDirectory path).error? = some e) : e.failure.isReported = true := by
  rw [ensureDirectory] at h
  cases hmake : fs.makeDirectory path with
  | ok made =>
    rw [hmake] at h
    cases h
  | error cause =>
    rw [hmake] at h
    dsimp only at h
    split at h
    · cases h
    · cases h
      exact isReported_of_makeDirectory hnull hmake

/-- A null character in the path is noticed at the first attempt to create a directory. -/
theorem error?_makeDirectories_of_hasNull (hnull : path.hasNull = true) :
    (fs.makeDirectories path).error? = some ⟨.nullCharacter, path⟩ := by
  rw [makeDirectories]
  cases path.names.length with
  | zero => exact error?_ensureDirectory_of_hasNull hnull
  | succ depth =>
    rw [makeDirectoriesWithin, makeDirectory_of_hasNull hnull]
    exact error?_ensureDirectory_of_hasNull hnull

theorem isReported_of_makeDirectoriesWithin {e : SystemError} (depth : Nat)
    (hnull : path.hasNull = false)
    (h : (makeDirectoriesWithin depth fs path).error? = some e) : e.failure.isReported = true := by
  induction depth generalizing path e with
  | zero => exact isReported_of_ensureDirectory hnull h
  | succ depth ih =>
    rw [makeDirectoriesWithin] at h
    split at h
    · cases hparent : (makeDirectoriesWithin depth fs path.parent).error? with
      | some cause =>
        rw [Change.andThen_of_some hparent] at h
        exact ih (Path.hasNull_parent hnull) h
      | none =>
        rw [Change.andThen_of_none hparent] at h
        exact isReported_of_ensureDirectory hnull h
    · exact isReported_of_ensureDirectory hnull h

/-- Without a null character, the system reports what stops the creation of directories. -/
theorem isReported_of_makeDirectories {e : SystemError} (hnull : path.hasNull = false)
    (h : (fs.makeDirectories path).error? = some e) : e.failure.isReported = true :=
  isReported_of_makeDirectoriesWithin _ hnull h

/-- A null character in the path is noticed before anything is written. -/
theorem error?_write_of_hasNull (hnull : path.hasNull = true) (bytes : List UInt8) :
    (fs.write path bytes).error? = some ⟨.nullCharacter, path⟩ := by
  rw [write, locate_of_hasNull hnull]

/-- Without a null character, the system reports what stops the writing of bytes. -/
theorem isReported_of_write {e : SystemError} {bytes : List UInt8} (hnull : path.hasNull = false)
    (h : (fs.write path bytes).error? = some e) : e.failure.isReported = true := by
  rw [write] at h
  cases hlocate : fs.locate path with
  | error cause =>
    rw [hlocate] at h
    cases h
    exact isReported_of_locate hnull hlocate
  | ok location =>
    rw [hlocate] at h
    dsimp only at h
    split at h
    · cases h
      rfl
    · cases h
      rfl
    · cases h
    · split at h <;> cases h <;> rfl

end Reports

end ScriptForms.FileSystem

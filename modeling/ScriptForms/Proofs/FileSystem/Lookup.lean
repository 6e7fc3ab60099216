import Mathlib.Data.List.Basic
import ScriptForms.FileSystem
import ScriptForms.Proofs.Except

/-!
# What a path leads to

A path is followed one component after the other, and only a directory can be left for the next
component. So what an absolute path leads to depends on two things only: which of the locations
above its end are directories, and what there is at its end (`read?_congr`). More directories never
lead a path elsewhere (`locate_mono`).

A null character in a path is noticed before the path is followed. Without one, a search that fails
ends with a report of the system (`isReported_of_locate`).
-/

namespace ScriptForms

/-- The directory of a path has no characters that the path has not. -/
theorem Path.hasNull_parent {path : Path} (h : path.hasNull = false) :
    path.parent.hasNull = false := by
  simp only [hasNull, parent, List.any_eq_false] at h ⊢
  intro name hname
  exact h name (List.dropLast_subset _ hname)

namespace FileSystem

variable {fs fs' : FileSystem}

/-! ### One component -/

/-- From a directory every component leads on, if its name is not too long. -/
theorem step_of_directory {location : Location} (h : fs.entryAt? location = some .directory)
    (component : String) :
    fs.step location component =
      if maxNameBytes < component.utf8ByteSize then .error .nameTooLong
      else if component = ".." then .ok location.dropLast
      else .ok (location ++ [component]) := by
  rw [step, h]

/-- From anything else no component leads on: what is looked for is not there. -/
theorem step_of_not_directory {location : Location} (h : fs.entryAt? location ≠ some .directory)
    (component : String) :
    fs.step location component = .error .notFound ∨
      fs.step location component = .error .notDirectory := by
  rw [step]
  cases hentry : fs.entryAt? location with
  | none => exact .inl rfl
  | some entry =>
    cases entry with
    | directory => exact absurd hentry h
    | _ => exact .inr rfl

/-- Only a directory can be left for the next component. -/
theorem directory_of_step_eq_ok {location next : Location} {component : String}
    (h : fs.step location component = .ok next) : fs.entryAt? location = some .directory := by
  by_contra hne
  rcases step_of_not_directory hne component with hstep | hstep <;> cases hstep.symm.trans h

/-- A component that leads nowhere is reported. -/
theorem isReported_of_step {location : Location} {component : String} {failure : SystemFailure}
    (h : fs.step location component = .error failure) : failure.isReported = true := by
  by_cases hdirectory : fs.entryAt? location = some .directory
  · rw [step_of_directory hdirectory] at h
    split at h
    · cases h
      rfl
    · split at h <;> cases h
  · rcases step_of_not_directory hdirectory component with hstep | hstep <;>
      cases hstep.symm.trans h <;> rfl

/-! ### Whole paths -/

/-- By induction on the components: the first that leads nowhere is reported. -/
theorem isReported_of_foldlM_step {names : List String} {location : Location}
    {failure : SystemFailure} (h : names.foldlM fs.step location = .error failure) :
    failure.isReported = true := by
  induction names generalizing location with
  | nil => cases h
  | cons name rest ih =>
    rw [List.foldlM_cons] at h
    obtain hstep | ⟨next, -, hrest⟩ := eq_error_or_exists_of_bind_eq_error h
    · exact isReported_of_step hstep
    · exact ih hrest

/-- A null character is noticed before the path is followed. -/
theorem locate_of_hasNull {path : Path} (hnull : path.hasNull = true) :
    fs.locate path = .error .nullCharacter := by
  rw [locate, if_pos hnull]

/-- Without a null character in the path, a search that fails ends with a report of the system. -/
theorem isReported_of_locate {path : Path} {failure : SystemFailure} (hnull : path.hasNull = false)
    (h : fs.locate path = .error failure) : failure.isReported = true := by
  rw [locate, if_neg (by simp [hnull])] at h
  split at h
  · cases h
    rfl
  · exact isReported_of_foldlM_step h

/-- By induction on the components, each of which leaves a directory. -/
theorem foldlM_step_mono
    (hmore : ∀ location, fs.entryAt? location = some .directory →
      fs'.entryAt? location = some .directory)
    {names : List String} {start target : Location} (h : names.foldlM fs.step start = .ok target) :
    names.foldlM fs'.step start = .ok target := by
  induction names generalizing start with
  | nil => exact h
  | cons name rest ih =>
    rw [List.foldlM_cons] at h ⊢
    obtain ⟨next, hstep, hrest⟩ := exists_of_bind_eq_ok h
    have hdirectory : fs.entryAt? start = some .directory := directory_of_step_eq_ok hstep
    have hstep' : fs'.step start name = .ok next := by
      rw [step_of_directory (hmore start hdirectory), ← step_of_directory hdirectory]
      exact hstep
    rw [hstep']
    exact ih hrest

/-- More directories never lead a path elsewhere. -/
theorem locate_mono (hcwd : fs'.workingDirectory = fs.workingDirectory)
    (hmore : ∀ location, fs.entryAt? location = some .directory →
      fs'.entryAt? location = some .directory)
    {path : Path} {target : Location} (h : fs.locate path = .ok target) :
    fs'.locate path = .ok target := by
  rw [locate] at h ⊢
  split at h
  · cases h
  · next hnull =>
    rw [if_neg hnull]
    split at h
    · cases h
    · next hlong =>
      rw [if_neg hlong, hcwd]
      exact foldlM_step_mono hmore h

/-! ### Paths without double points -/

/-- Two searches from the same place end alike if they pass through directories at the same places
and there is the same at the end. Where a location above the end is no directory, neither search
finds anything. -/
theorem entryOf?_foldlM_congr {done rest : Location} (hdots : ".." ∉ rest)
    (hdirectories : ∀ location, location <+: done ++ rest → location ≠ done ++ rest →
      (fs'.entryAt? location = some .directory ↔ fs.entryAt? location = some .directory))
    (hend : fs'.entryAt? (done ++ rest) = fs.entryAt? (done ++ rest)) :
    fs'.entryOf? (rest.foldlM fs'.step done) = fs.entryOf? (rest.foldlM fs.step done) := by
  induction rest generalizing done with
  | nil =>
    rw [List.append_nil] at hend
    exact congrArg Except.ok hend
  | cons name rest ih =>
    have hsame : fs'.entryAt? done = some .directory ↔ fs.entryAt? done = some .directory :=
      hdirectories done (List.prefix_append _ _) (by simp)
    rw [List.foldlM_cons, List.foldlM_cons]
    by_cases hdirectory : fs.entryAt? done = some .directory
    · rw [step_of_directory hdirectory, step_of_directory (hsame.2 hdirectory)]
      split
      · rfl
      · have hname : name ≠ ".." := fun h ↦ hdots (h ▸ List.mem_cons_self)
        have happend : done ++ [name] ++ rest = done ++ name :: rest :=
          List.append_cons _ _ _ |>.symm
        rw [if_neg hname]
        refine ih (fun h ↦ hdots (List.mem_cons_of_mem _ h)) ?_ ?_
        · rw [happend]
          exact hdirectories
        · rw [happend]
          exact hend
    · have hnothing (files : FileSystem) (hfiles : files.entryAt? done ≠ some .directory) :
          files.entryOf? (files.step done name >>= fun next ↦ rest.foldlM files.step next) =
            .ok none := by
        rcases step_of_not_directory hfiles name with hstep | hstep <;> rw [hstep] <;> rfl
      rw [hnothing fs hdirectory, hnothing fs' (mt hsame.1 hdirectory)]

/-- What can be read at an absolute path depends only on which locations above its end are
directories and on what there is at its end. -/
theorem read?_congr {names : Location} (hdots : ".." ∉ names)
    (hdirectories : ∀ location, location <+: names → location ≠ names →
      (fs'.entryAt? location = some .directory ↔ fs.entryAt? location = some .directory))
    (hend : fs'.entryAt? names = fs.entryAt? names) :
    fs'.read? ⟨1, names⟩ = fs.read? ⟨1, names⟩ := by
  have hentry : fs'.lookup? ⟨1, names⟩ = fs.lookup? ⟨1, names⟩ := by
    rw [lookup?, lookup?, locate, locate]
    split
    · rfl
    · split
      · rfl
      · have hstart (files : FileSystem) :
            names.foldlM files.step (if 1 = 0 then files.workingDirectory else []) =
              names.foldlM files.step [] := rfl
        rw [hstart, hstart]
        exact entryOf?_foldlM_congr hdots hdirectories hend
  rw [read?, read?, hentry]

/-- A path that leads to a file holds no null character. -/
theorem hasNull_eq_false_of_isFile {path : Path} (h : fs.isFile path = .ok true) :
    path.hasNull = false := by
  by_contra hnull
  rw [Bool.not_eq_false] at hnull
  rw [isFile, lookup?, locate_of_hasNull hnull] at h
  cases h

/-- No double point is left in a location that was resolved. -/
theorem not_mem_resolve (fs : FileSystem) (path : Path) : ".." ∉ fs.resolve path := by
  have hkept : ∀ (names start : List String), ".." ∉ start →
      ".." ∉ names.foldl (fun location component ↦
        if component = ".." then location.dropLast else location ++ [component]) start := by
    intro names
    induction names with
    | nil => exact fun start h ↦ h
    | cons name rest ih =>
      intro start hstart
      refine ih _ ?_
      show ".." ∉ if name = ".." then start.dropLast else start ++ [name]
      split
      · exact fun h ↦ hstart (List.dropLast_subset _ h)
      · next hname =>
        rw [List.mem_append, List.mem_singleton]
        rintro (h | h)
        · exact hstart h
        · exact hname h.symm
  exact hkept _ _ List.not_mem_nil

end FileSystem

end ScriptForms

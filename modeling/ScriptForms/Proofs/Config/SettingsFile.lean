import Mathlib.Data.List.Induction
import ScriptForms.Config.Load
import ScriptForms.Proofs.FileSystem.Lookup

/-!
# The table of settings that counts

The settings of a document are looked for in one table: the program's section of the settings file
in the nearest directory that has such a file. `ConsultedTable` says which table that is in terms of
what there is in the directories, without a search, and `fileSettings_eq_ok_iff` says that the
search gives the settings of this table and of no other.

Directories above the nearest one do not matter: `DiffersAbove` is a change of their settings files,
and the same table counts after it (`DiffersAbove.consultedTable`).
-/

namespace ScriptForms

/-! ### The nearest settings file -/

/-- Of the directories at and above `start`, `directory` is the nearest with a settings file, and
`bytes` are the contents of the file. -/
structure NearestSettings (fs : FileSystem) (start directory : Location) (bytes : List UInt8) :
    Prop where
  above : directory <+: start
  holds : settingsFileIn? fs directory = .ok (some bytes)
  none_nearer : ∀ nearer, directory <+: nearer → nearer <+: start → nearer ≠ directory →
    settingsFileIn? fs nearer = .ok none

section Nearest

variable {fs : FileSystem} {start directory : Location} {bytes : List UInt8}

/-- The nearest file lies in the starting directory, or there is none in that directory. -/
theorem NearestSettings.cases (h : NearestSettings fs start directory bytes) :
    directory = start ∨ settingsFileIn? fs start = .ok none := by
  by_cases heq : start = directory
  · exact .inl heq.symm
  · exact .inr (h.none_nearer start h.above List.prefix_rfl heq)

/-- A settings file in the directory itself is the nearest one. -/
theorem nearestSettings_iff_of_some {found : List UInt8}
    (hstart : settingsFileIn? fs start = .ok (some found)) :
    NearestSettings fs start directory bytes ↔ directory = start ∧ bytes = found := by
  constructor
  · intro h
    obtain rfl | hnone := h.cases
    · cases h.holds.symm.trans hstart
      exact ⟨rfl, rfl⟩
    · cases hnone.symm.trans hstart
  · rintro ⟨rfl, rfl⟩
    refine ⟨List.prefix_rfl, hstart, fun nearer habove hbelow hne ↦ ?_⟩
    exact absurd (hbelow.eq_of_length_le habove.length_le) hne

/-- Without a settings file in the directory itself, the nearest one is that of the directory above
it. -/
theorem nearestSettings_concat_iff {name : String}
    (hstart : settingsFileIn? fs (start ++ [name]) = .ok none) :
    NearestSettings fs (start ++ [name]) directory bytes ↔
      NearestSettings fs start directory bytes := by
  constructor
  · intro h
    obtain hpre | hpre := List.prefix_concat_iff.1 h.above
    · rw [hpre] at h
      cases h.holds.symm.trans hstart
    · refine ⟨hpre, h.holds, fun nearer habove hbelow hne ↦ ?_⟩
      exact h.none_nearer nearer habove (hbelow.trans (List.prefix_append _ _)) hne
  · intro h
    refine ⟨h.above.trans (List.prefix_append _ _), h.holds, fun nearer habove hbelow hne ↦ ?_⟩
    obtain rfl | hpre := List.prefix_concat_iff.1 hbelow
    · exact hstart
    · exact h.none_nearer nearer habove hpre hne

end Nearest

/-! ### The search upwards -/

/-- The way upwards from a directory goes on with the way from the one above it. -/
theorem directoriesUp_concat (directory : Location) (name : String) :
    directoriesUp (directory ++ [name]) = (directory ++ [name]) :: directoriesUp directory := by
  have htake : (directory ++ [name]).take (directory.length + 1) = directory ++ [name] :=
    List.take_of_length_le (by simp)
  have hmap : (List.range (directory.length + 1)).map (fun count ↦
    (directory ++ [name]).take count) =
      (List.range (directory.length + 1)).map fun count ↦ directory.take count := by
    refine List.map_congr_left fun count hcount ↦ List.take_append_of_le_length ?_
    rw [List.mem_range] at hcount
    omega
  rw [directoriesUp, List.length_append, List.length_singleton, List.range_succ, List.map_append,
    hmap, List.reverse_append, List.map_singleton, htake]
  rfl

section Search

variable {fs : FileSystem} {start : Location}

/-- The search looks at the directory itself before those above it. -/
theorem exists_directoriesUp_eq_cons (start : Location) :
    ∃ rest, directoriesUp start = start :: rest := by
  induction start using List.reverseRecOn with
  | nil => exact ⟨[], rfl⟩
  | append_singleton directory name _ => exact ⟨_, directoriesUp_concat directory name⟩

/-- A refusal in the starting directory ends the search. -/
theorem nearestSettingsFile?_of_error {failure : SystemFailure}
    (h : settingsFileIn? fs start = .error failure) :
    nearestSettingsFile? fs start = .error failure := by
  obtain ⟨rest, hrest⟩ := exists_directoriesUp_eq_cons start
  rw [nearestSettingsFile?, hrest, List.findSomeM?, h]
  rfl

/-- A file in the starting directory is the nearest one. -/
theorem nearestSettingsFile?_of_some {bytes : List UInt8}
    (h : settingsFileIn? fs start = .ok (some bytes)) :
    nearestSettingsFile? fs start = .ok (some (start, bytes)) := by
  obtain ⟨rest, hrest⟩ := exists_directoriesUp_eq_cons start
  rw [nearestSettingsFile?, hrest, List.findSomeM?, h]
  rfl

/-- Without a file in a directory, the search goes on in the one above it. -/
theorem nearestSettingsFile?_concat_of_none {name : String}
    (h : settingsFileIn? fs (start ++ [name]) = .ok none) :
    nearestSettingsFile? fs (start ++ [name]) = nearestSettingsFile? fs start := by
  rw [nearestSettingsFile?, directoriesUp_concat, List.findSomeM?, h]
  rfl

theorem nearestSettingsFile?_root_of_none (h : settingsFileIn? fs [] = .ok none) :
    nearestSettingsFile? fs [] = .ok none := by
  rw [nearestSettingsFile?, show directoriesUp [] = [[]] from rfl, List.findSomeM?, h]
  rfl

/-- A search that is not broken off has looked into the directory itself. -/
theorem settingsFileIn?_of_nearestSettingsFile? {found : Option (Location × List UInt8)}
    (h : nearestSettingsFile? fs start = .ok found) :
    settingsFileIn? fs start = .ok none ∨
      ∃ bytes, settingsFileIn? fs start = .ok (some bytes) ∧ found = some (start, bytes) := by
  cases hfile : settingsFileIn? fs start with
  | error failure => cases (nearestSettingsFile?_of_error hfile).symm.trans h
  | ok file =>
    cases file with
    | none => exact .inl rfl
    | some bytes =>
      cases (nearestSettingsFile?_of_some hfile).symm.trans h
      exact .inr ⟨bytes, rfl, rfl⟩

/-- The search finds the nearest settings file and nothing else. -/
theorem nearestSettingsFile?_eq_some_iff {directory : Location} {bytes : List UInt8} :
    nearestSettingsFile? fs start = .ok (some (directory, bytes)) ↔
      NearestSettings fs start directory bytes := by
  constructor
  · intro h
    induction start using List.reverseRecOn with
    | nil =>
      obtain hnone | ⟨found, hfound, heq⟩ := settingsFileIn?_of_nearestSettingsFile? h
      · cases (nearestSettingsFile?_root_of_none hnone).symm.trans h
      · cases heq
        exact (nearestSettings_iff_of_some hfound).2 ⟨rfl, rfl⟩
    | append_singleton above name ih =>
      obtain hnone | ⟨found, hfound, heq⟩ := settingsFileIn?_of_nearestSettingsFile? h
      · rw [nearestSettingsFile?_concat_of_none hnone] at h
        exact (nearestSettings_concat_iff hnone).2 (ih h)
      · cases heq
        exact (nearestSettings_iff_of_some hfound).2 ⟨rfl, rfl⟩
  · intro h
    induction start using List.reverseRecOn with
    | nil =>
      obtain rfl := List.prefix_nil.1 h.above
      exact nearestSettingsFile?_of_some h.holds
    | append_singleton above name ih =>
      obtain rfl | hnone := h.cases
      · exact nearestSettingsFile?_of_some h.holds
      · rw [nearestSettingsFile?_concat_of_none hnone]
        exact ih ((nearestSettings_concat_iff hnone).1 h)

/-- The search finds nothing exactly if there is no settings file in any of the directories. -/
theorem nearestSettingsFile?_eq_none_iff :
    nearestSettingsFile? fs start = .ok none ↔
      ∀ directory, directory <+: start → settingsFileIn? fs directory = .ok none := by
  constructor
  · intro h directory hpre
    induction start using List.reverseRecOn with
    | nil =>
      obtain hnone | ⟨_, _, heq⟩ := settingsFileIn?_of_nearestSettingsFile? h
      · rwa [List.prefix_nil.1 hpre]
      · cases heq
    | append_singleton above name ih =>
      obtain hnone | ⟨_, _, heq⟩ := settingsFileIn?_of_nearestSettingsFile? h
      · rw [nearestSettingsFile?_concat_of_none hnone] at h
        obtain rfl | hpre := List.prefix_concat_iff.1 hpre
        · exact hnone
        · exact ih h hpre
      · cases heq
  · intro h
    induction start using List.reverseRecOn with
    | nil => exact nearestSettingsFile?_root_of_none (h [] List.prefix_rfl)
    | append_singleton above name ih =>
      rw [nearestSettingsFile?_concat_of_none (h _ List.prefix_rfl)]
      exact ih fun directory hpre ↦ h directory (hpre.trans (List.prefix_append _ _))

end Search

/-! ### The table -/

/-- `table` is the table under a name, or empty if there is nothing under the name. -/
def TableUnder (entries : Toml.Entries) (name : String) (table : Toml.Entries) : Prop :=
  entries.lookup name = some (.table table) ∨ entries.lookup name = none ∧ table = []

/-- `table` is the program's section in a settings file with the given contents. -/
def SectionTable (bytes : List UInt8) (table : Toml.Entries) : Prop :=
  ∃ text root tool, Text.decodeUtf8 bytes = .ok text ∧ Toml.read text = .ok root ∧
    TableUnder root "tool" tool ∧ TableUnder tool settingsSectionName table

/-- `table` is the one in which the settings of a document in the directory `start` are looked
for. -/
inductive ConsultedTable (fs : FileSystem) (start : Location) : Toml.Entries → Prop
  /-- The section of the nearest settings file, empty if the file has none. -/
  | nearest {directory : Location} {bytes : List UInt8} {table : Toml.Entries}
      (hnearest : NearestSettings fs start directory bytes) (hsection : SectionTable bytes table) :
      ConsultedTable fs start table
  /-- No table, for there is no settings file. -/
  | nowhere (hnone : ∀ directory, directory <+: start → settingsFileIn? fs directory = .ok none) :
      ConsultedTable fs start []

/-- A table that is missing counts as an empty one. -/
theorem tableUnder_iff {entries table : Toml.Entries} {name : String} :
    TableUnder entries name table ↔ (entries.lookup name).getD (.table []) = .table table := by
  rw [TableUnder]
  cases entries.lookup name with
  | none => simp [eq_comm]
  | some value => simp

/-- The section of a settings file, if it is a table, is the one that is read. -/
theorem settingsSection_eq_ok_table_iff {bytes : List UInt8} {table : Toml.Entries} :
    settingsSection bytes = .ok (.table table) ↔ SectionTable bytes table := by
  constructor
  · intro h
    obtain ⟨text, htext, h⟩ := exists_of_bind_eq_ok h
    obtain ⟨root, hroot, h⟩ := exists_of_bind_eq_ok h
    split at h
    · next tool htool =>
      refine ⟨text, root, tool, mapError_eq_ok_iff.1 htext, mapError_eq_ok_iff.1 hroot,
        tableUnder_iff.2 htool, tableUnder_iff.2 (Except.ok.inj h)⟩
    · cases h
  · rintro ⟨text, root, tool, htext, hroot, htool, htable⟩
    rw [tableUnder_iff] at htool htable
    rw [settingsSection, mapError_eq_ok_iff.2 htext]
    show (Toml.read text).mapError ConfigError.malformed >>= _ = _
    rw [mapError_eq_ok_iff.2 hroot]
    dsimp only [bind, Except.bind]
    rw [htool]
    exact congrArg Except.ok htable

/-- The settings of the file are those in the section of the nearest one. -/
theorem fileSettings_of_nearest {fs : FileSystem} {start : Path} {directory : Location}
    {bytes : List UInt8} (hnull : start.hasNull = false)
    (hnearest : NearestSettings fs (fs.resolve start) directory bytes) :
    (fileSettings fs start).1 = settingsSection bytes >>= sectionSettings := by
  rw [fileSettings, if_neg (by simp [hnull]), nearestSettingsFile?_eq_some_iff.2 hnearest]
  dsimp only
  cases settingsSection bytes <;> rfl

/-- The settings that are found in files are those of the table that counts. They are found exactly
if there is such a table. -/
theorem fileSettings_eq_ok_iff {fs : FileSystem} {start : Path} {settings : Settings} :
    (fileSettings fs start).1 = .ok settings ↔
      start.hasNull = false ∧
        ∃ table, ConsultedTable fs (fs.resolve start) table ∧ settings = .ofTable table := by
  constructor
  · intro h
    have hnull : start.hasNull = false := by
      by_contra hnull
      rw [fileSettings, if_pos (by simpa using hnull)] at h
      cases h
    refine ⟨hnull, ?_⟩
    cases hsearch : nearestSettingsFile? fs (fs.resolve start) with
    | error failure =>
      rw [fileSettings, if_neg (by simp [hnull]), hsearch] at h
      cases h
    | ok found =>
      cases found with
      | none =>
        rw [fileSettings, if_neg (by simp [hnull]), hsearch] at h
        cases h
        exact ⟨[], .nowhere (nearestSettingsFile?_eq_none_iff.1 hsearch), rfl⟩
      | some file =>
        have hnearest := nearestSettingsFile?_eq_some_iff.1 hsearch
        rw [fileSettings_of_nearest hnull hnearest] at h
        obtain ⟨value, hvalue, hsettings⟩ := exists_of_bind_eq_ok h
        cases value with
        | table table =>
          exact ⟨table, .nearest hnearest (settingsSection_eq_ok_table_iff.1 hvalue),
            (Except.ok.inj hsettings).symm⟩
        | _ => cases hsettings
  · rintro ⟨hnull, table, hconsulted, rfl⟩
    cases hconsulted with
    | nearest hnearest hsection =>
      rw [fileSettings_of_nearest hnull hnearest, settingsSection_eq_ok_table_iff.2 hsection]
      rfl
    | nowhere hnone =>
      rw [fileSettings, if_neg (by simp [hnull]), nearestSettingsFile?_eq_none_iff.2 hnone]
      rfl

/-- Reading a settings file refuses no setting. -/
theorem settingsSection_ne_invalid {bytes : List UInt8} {errors : List SettingError} :
    settingsSection bytes ≠ .error (.invalid errors) := by
  intro h
  obtain htext | ⟨text, -, h⟩ := eq_error_or_exists_of_bind_eq_error h
  · obtain ⟨cause, -, hcause⟩ := exists_of_mapError_eq_error htext
    cases hcause
  · obtain hroot | ⟨root, -, h⟩ := eq_error_or_exists_of_bind_eq_error h
    · obtain ⟨cause, -, hcause⟩ := exists_of_mapError_eq_error hroot
      cases hcause
    · split at h <;> cases h

theorem fileSettings_ne_invalid {fs : FileSystem} {start : Path} {errors : List SettingError} :
    (fileSettings fs start).1 ≠ .error (.invalid errors) := by
  intro h
  rw [fileSettings] at h
  split at h
  · cases h
  · split at h
    · cases h
    · cases h
    · split at h
      · next cause hsection =>
        rw [show cause = .invalid errors from Except.error.inj h] at hsection
        exact settingsSection_ne_invalid hsection
      · next value _ => cases value <;> cases h

/-! ### Settings files further up -/

/-- `fs'` differs from `fs` at most in the settings files above `directory`: there, files may have
been changed, added and removed. -/
structure DiffersAbove (directory : Location) (fs fs' : FileSystem) : Prop where
  workingDirectory : fs'.workingDirectory = fs.workingDirectory
  entries : ∀ location, fs'.entryAt? location = fs.entryAt? location ∨
    (∃ above, above <+: directory ∧ above ≠ directory ∧ location = above ++ [settingsFileName]) ∧
      fs.entryAt? location ≠ some .directory ∧ fs'.entryAt? location ≠ some .directory

namespace DiffersAbove

variable {fs fs' : FileSystem} {directory : Location}

/-- Such a change is not noticed in the directory and below it. -/
theorem settingsFileIn?_eq (h : DiffersAbove directory fs fs') {below : Location}
    (hbelow : directory <+: below) (hdots : ".." ∉ below) :
    settingsFileIn? fs' below = settingsFileIn? fs below := by
  refine FileSystem.read?_congr ?_ ?_ ?_
  · simp [hdots, settingsFileName]
  · intro location _ _
    obtain heq | ⟨-, hfs, hfs'⟩ := h.entries location
    · rw [heq]
    · exact ⟨fun hdirectory ↦ absurd hdirectory hfs', fun hdirectory ↦ absurd hdirectory hfs⟩
  · obtain heq | ⟨⟨above, habove, hne, happend⟩, -, -⟩ := h.entries (below ++ [settingsFileName])
    · exact heq
    · -- the file would be in a directory both above `directory` and at or below it
      obtain rfl : below = above := List.append_cancel_right happend
      exact absurd (habove.eq_of_length_le hbelow.length_le) hne

/-- What changes above the directory of the nearest file does not move it. -/
theorem nearestSettings (h : DiffersAbove directory fs fs') {start : Location} {bytes : List UInt8}
    (hdots : ".." ∉ start) (hnearest : NearestSettings fs start directory bytes) :
    NearestSettings fs' start directory bytes where
  above := hnearest.above
  holds := by
    rw [h.settingsFileIn?_eq List.prefix_rfl fun hmem ↦ hdots (hnearest.above.subset hmem)]
    exact hnearest.holds
  none_nearer := by
    intro nearer habove hbelow hne
    rw [h.settingsFileIn?_eq habove fun hmem ↦ hdots (hbelow.subset hmem)]
    exact hnearest.none_nearer nearer habove hbelow hne

/-- The table that counts stays the same. -/
theorem consultedTable (h : DiffersAbove directory fs fs') {start : Path} {bytes : List UInt8}
    {table : Toml.Entries} (hnearest : NearestSettings fs (fs.resolve start) directory bytes)
    (hconsulted : ConsultedTable fs (fs.resolve start) table) :
    ConsultedTable fs' (fs'.resolve start) table := by
  have hresolve : fs'.resolve start = fs.resolve start := by
    rw [FileSystem.resolve, FileSystem.resolve, h.workingDirectory]
  rw [hresolve]
  cases hconsulted with
  | nearest hnearest' hsection =>
    have hfound := nearestSettingsFile?_eq_some_iff.2 hnearest
    rw [nearestSettingsFile?_eq_some_iff.2 hnearest'] at hfound
    cases hfound
    exact .nearest (h.nearestSettings (fs.not_mem_resolve start) hnearest) hsection
  | nowhere hnone => cases (hnone directory hnearest.above).symm.trans hnearest.holds

end DiffersAbove

end ScriptForms

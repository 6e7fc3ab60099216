import Mathlib.Data.List.Basic
import ScriptForms.Path.Search

/-!
# Which directories are searched

The variable is a list of paths with colons between them, and each of them is searched from an
absolute directory. The directory of a document goes the same way: it is taken apart at its colons
as if it had been the value of the variable. So it is what is searched just if there is no colon in
it (`searchPath_eq_documentDirectory_iff`).
-/

namespace ScriptForms.Path

/-! ### Absolute paths -/

variable {cwd root path : List Char}

theorem isAbsolute_iff : isAbsolute path = true ↔ ∃ rest, path = '/' :: rest := by
  rw [isAbsolute, beq_iff_eq, List.head?_eq_some_iff]

theorem isAbsolute_join (hroot : isAbsolute root = true) (path : List Char) :
    isAbsolute (join root path) = true := by
  obtain ⟨rest, rfl⟩ := isAbsolute_iff.1 hroot
  rw [join]
  split
  · assumption
  · split <;> rfl

theorem leadingSlashes_pos (hpath : isAbsolute path = true) : 0 < leadingSlashes path := by
  obtain ⟨rest, rfl⟩ := isAbsolute_iff.1 hpath
  unfold leadingSlashes
  split <;> simp_all

theorem isAbsolute_normalize (hpath : isAbsolute path = true) :
    isAbsolute (normalize path) = true := by
  obtain ⟨slashes, hslashes⟩ := Nat.exists_eq_succ_of_ne_zero
    (Nat.ne_of_gt (leadingSlashes_pos hpath))
  rw [normalize, hslashes, List.replicate_succ]
  rfl

/-- An absolute path is taken as it is, not even normalized. -/
theorem absolute_of_isAbsolute (hpath : isAbsolute path = true) (base : Option (List Char)) :
    absolute cwd base path = path :=
  if_pos hpath

/-- A path made absolute starts at the root, as long as the working directory does. -/
theorem isAbsolute_absolute (hcwd : isAbsolute cwd = true) (base : Option (List Char))
    (path : List Char) :
    isAbsolute (absolute cwd base path) = true := by
  by_cases hpath : isAbsolute path = true
  · rw [absolute_of_isAbsolute hpath]
    exact hpath
  · have hfrom {root : List Char} (hroot : isAbsolute root = true) :
        isAbsolute (if isAbsolute path = true then path else normalize (join root path)) =
          true := by
      rw [if_neg hpath]
      exact isAbsolute_normalize (isAbsolute_join hroot path)
    cases base with
    | none => exact hfrom hcwd
    | some base =>
      apply hfrom
      show isAbsolute (if isAbsolute base = true then base else normalize (join cwd base)) = true
      split
      · assumption
      · exact isAbsolute_normalize (isAbsolute_join hcwd base)

/-! ### Parts between separators -/

theorem notMem_of_mem_splitOn {separator : Char} {text part : List Char}
    (h : part ∈ text.splitOn separator) :
    separator ∉ part := by
  induction text generalizing part with
  | nil =>
    rw [List.splitOn_nil, List.mem_singleton] at h
    rw [h]
    exact List.not_mem_nil
  | cons c text ih =>
    obtain ⟨first, parts, hparts⟩ := List.exists_cons_of_ne_nil (List.splitOn_ne_nil separator text)
    rw [List.splitOn_cons_eq_if_modifyHead, hparts] at h
    rw [hparts] at ih
    by_cases hc : (c == separator) = true
    · rw [if_pos hc] at h
      rcases List.mem_cons.1 h with rfl | hlater
      · exact List.not_mem_nil
      · exact ih hlater
    · -- the character belongs to the first part
      rw [if_neg hc, List.modifyHead_cons] at h
      rcases List.mem_cons.1 h with rfl | hlater
      · rw [List.mem_cons, not_or]
        exact ⟨fun hsame ↦ hc (beq_iff_eq.2 hsame.symm), ih List.mem_cons_self⟩
      · exact ih (List.mem_cons_of_mem first hlater)

/-- A text is its own only part if the separator is not in it, and only then. -/
theorem splitOn_eq_singleton_iff {separator : Char} {text part : List Char} :
    text.splitOn separator = [part] ↔ separator ∉ text ∧ part = text := by
  constructor
  · intro h
    have hpart : separator ∉ part := notMem_of_mem_splitOn (h ▸ List.mem_singleton_self part)
    have htext : [separator].intercalate [part] = text := by rw [← h, List.intercalate_splitOn]
    have hsame : part = text := by simpa using htext
    exact ⟨hsame ▸ hpart, hsame⟩
  · rintro ⟨hseparator, rfl⟩
    exact List.splitOn_eq_singleton hseparator

/-! ### The search path -/

/-- The directory of a document: the working directory for a document that was not read from a
file. -/
def documentDirectory (cwd document : List Char) : List Char :=
  if document = inMemory then cwd else absolute cwd none (parentDirectory document)

/-- The directory of a document is absolute, however the document is named. -/
theorem isAbsolute_documentDirectory (hcwd : isAbsolute cwd = true) (document : List Char) :
    isAbsolute (documentDirectory cwd document) = true := by
  rw [documentDirectory]
  split
  · exact hcwd
  · exact isAbsolute_absolute hcwd none _

/-- The value of the variable is split at colons, and each part is resolved. -/
theorem searchPath_set (cwd value : List Char) (document : Option (List Char)) :
    searchPath cwd (some value) document = .ok ((value.splitOn ':').map (absolute cwd none)) :=
  rfl

/-- The directory of a document is treated as if it were the value of the variable. -/
theorem searchPath_unset (cwd document : List Char) :
    searchPath cwd none (some document) =
      searchPath cwd (some (documentDirectory cwd document)) none :=
  rfl

/-- Without the variable, the directory is kept in one piece exactly if it holds no colon. -/
theorem searchPath_eq_documentDirectory_iff (hcwd : isAbsolute cwd = true) (document : List Char) :
    searchPath cwd none (some document) = .ok [documentDirectory cwd document] ↔
      ':' ∉ documentDirectory cwd document := by
  have hdirectory := isAbsolute_documentDirectory hcwd document
  rw [searchPath_unset, searchPath_set]
  constructor
  · intro h
    obtain ⟨part, hparts, -⟩ := List.map_eq_singleton_iff.1 (Except.ok.inj h)
    exact (splitOn_eq_singleton_iff.1 hparts).1
  · intro hcolon
    rw [splitOn_eq_singleton_iff.2 ⟨hcolon, rfl⟩, List.map_singleton,
      absolute_of_isAbsolute hdirectory]

/-- **What is searched.** If the variable is unset, the search path is the directory of the document
just if that directory has no colon in its name; in any case it is what the variable would give with
the directory as its value. If the variable is set, the search path has an absolute directory for
each part between colons, in order, whatever the document is. -/
theorem searchPath_is_directory_without_colon (hcwd : isAbsolute cwd = true) :
    (∀ document, searchPath cwd none (some document) = .ok [documentDirectory cwd document] ↔
      ':' ∉ documentDirectory cwd document) ∧
    (∀ document, searchPath cwd none (some document) =
      searchPath cwd (some (documentDirectory cwd document)) none) ∧
    ∀ value document, ∃ parts, parts ≠ [] ∧ (∀ part ∈ parts, ':' ∉ part) ∧
      value = [':'].intercalate parts ∧
      searchPath cwd (some value) document = .ok (parts.map (absolute cwd none)) ∧
      ∀ part ∈ parts, isAbsolute (absolute cwd none part) = true := by
  refine ⟨searchPath_eq_documentDirectory_iff hcwd, searchPath_unset cwd, fun value document ↦ ?_⟩
  refine ⟨value.splitOn ':', List.splitOn_ne_nil ':' value, fun part hpart ↦
    notMem_of_mem_splitOn hpart,
    (List.intercalate_splitOn ':').symm, searchPath_set cwd value document, fun part _ ↦ ?_⟩
  exact isAbsolute_absolute hcwd none part

/-- A relative document below the working directory. -/
theorem searchPath_is_directory_without_colon_below_cwd :
    isAbsolute "/work".toList = true ∧ documentDirectory "/work".toList "lib/doc".toList =
      "/work/lib".toList ∧
      searchPath "/work".toList none (some "lib/doc".toList) = .ok ["/work/lib".toList] := by
  have hcwd : isAbsolute "/work".toList = true := by decide +kernel
  have hdirectory : documentDirectory "/work".toList "lib/doc".toList = "/work/lib".toList := by
    decide +kernel
  have hsearch := (searchPath_is_directory_without_colon hcwd).1 "lib/doc".toList
  rw [hdirectory] at hsearch
  exact ⟨hcwd, hdirectory, hsearch.2 (by decide +kernel)⟩

/-- A document whose directory has a colon in its name is searched from other directories. -/
theorem searchPath_splits_directory :
    isAbsolute "/work".toList = true ∧ documentDirectory "/work".toList "/a:b/doc".toList =
      "/a:b".toList ∧
      searchPath "/work".toList none (some "/a:b/doc".toList) =
        .ok ["/a".toList, "/work/b".toList] ∧
      searchPath "/work".toList none (some "/a:b/doc".toList) ≠ .ok ["/a:b".toList] := by
  decide +kernel

end ScriptForms.Path

import ScriptForms.Path.Lexical

/-!
# The library search path

The directories in which libraries are looked for. The environment variable `YSPATH`, with colons
between its entries, wins whenever it is set, even to nothing. Otherwise the one directory of the
document is used, or the working directory for a document that was not read from a file. Entries are
made absolute; an empty one stands for the working directory.
-/

namespace ScriptForms.Path

/-- `path` made absolute, as seen from `base` or else from the working directory `cwd`. A path that
is absolute already stays as it is. -/
def absolute (cwd : List Char) (base : Option (List Char)) (path : List Char) : List Char :=
  if isAbsolute path then path
  else
    let root :=
      match base with
      | none => cwd
      | some base => if isAbsolute base then base else normalize (join cwd base)
    normalize (join root path)

/-- The directory of a document, `.` for a bare name. -/
def parentDirectory (path : List Char) : List Char :=
  let parent := directoryOf path
  if parent = [] then ['.'] else parent

/-- The path given to a document that was not read from a file. -/
def inMemory : List Char :=
  "/NO-NAME".toList

/-- The search path cannot be derived: the variable is unset and the document unknown. -/
structure SearchPathError where
  deriving DecidableEq, Repr

/-- The wording of the error. -/
def SearchPathError.message (_ : SearchPathError) : String :=
  "YSPATH environment variable not set"

/-- The search path as one text: the value of the variable, or the directory of the document. -/
def searchText (cwd : List Char) (setting document : Option (List Char)) :
    Except SearchPathError (List Char) :=
  match setting, document with
  | some value, _ => .ok value
  | none, some document =>
    .ok (if document = inMemory then cwd else absolute cwd none (parentDirectory document))
  | none, none => .error ⟨⟩

/-- The directories of the search path, in order. -/
def searchPath (cwd : List Char) (setting document : Option (List Char)) :
    Except SearchPathError (List (List Char)) :=
  (searchText cwd setting document).map fun text ↦ (text.splitOn ':').map (absolute cwd none)

end ScriptForms.Path

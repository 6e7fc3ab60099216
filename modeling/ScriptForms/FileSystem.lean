import ScriptForms.Path.Basic
import ScriptForms.Text.Quoted

/-!
# File systems

A file system as a value: a working directory and the files and directories that exist. A directory
exists when it is listed, when it lies above something that is listed, or above or at the working
directory. A path is followed component by component, and every component but the last must lead to
a directory. The lengths of names and paths are limited. There may be files that can be seen but
that the system refuses to open.
-/

namespace ScriptForms

/-- Where a file or directory is: its components from the root. -/
abbrev Location := List String

/-- The report that a file cannot be opened, with the number that the system gives it. -/
structure Refusal where
  number : Nat
  wording : String
  deriving DecidableEq, Repr

/-- What there is at a location. -/
inductive FileEntry where
  | file (bytes : List UInt8)
  /-- A regular file that the system refuses to open. -/
  | locked (refusal : Refusal)
  | directory
  deriving DecidableEq, Repr

/-- Why a request about files fails. -/
inductive SystemFailure where
  | notFound
  | alreadyExists
  | notDirectory
  | isDirectory
  | nameTooLong
  | refused (refusal : Refusal)
  /-- The path holds a null character, so that the system cannot even be asked. -/
  | nullCharacter
  /-- The text to be written holds a surrogate, so that there are no bytes to be written. -/
  | unencodable
  deriving DecidableEq, Repr

/-- Whether a failure means, to one who looks for something, that it is not there. -/
def SystemFailure.isAbsence : SystemFailure → Bool
  | notFound => true
  | notDirectory => true
  | nullCharacter => true
  | _ => false

/-- Whether it is the system that reports a failure. -/
def SystemFailure.isReported : SystemFailure → Bool
  | nullCharacter => false
  | unencodable => false
  | _ => true

/-- A failure with the path of the request. -/
structure SystemError where
  failure : SystemFailure
  path : Path
  deriving DecidableEq, Repr

/-- The wording of an error, with the number that the system gives it. -/
def SystemError.message (e : SystemError) : String :=
  let text :=
    match e.failure with
    | .notFound => "[Errno 2] No such file or directory"
    | .alreadyExists => "[Errno 17] File exists"
    | .notDirectory => "[Errno 20] Not a directory"
    | .isDirectory => "[Errno 21] Is a directory"
    | .nameTooLong => "[Errno 36] File name too long"
    | .refused refusal => "[Errno " ++ toString refusal.number ++ "] " ++ refusal.wording
    | .nullCharacter => "Null character in path"
    | .unencodable => "Surrogate in text"
  text ++ ": " ++ Text.quoted e.path.toText

/-- A file system with a working directory. -/
structure FileSystem where
  workingDirectory : Location
  entries : List (Location × FileEntry)
  deriving DecidableEq, Repr

namespace FileSystem

/-- What there is at a location, if there is anything. -/
def entryAt? (fs : FileSystem) (location : Location) : Option FileEntry :=
  match fs.entries.lookup location with
  | some entry => some entry
  | none =>
    if location.isPrefixOf fs.workingDirectory ||
        fs.entries.any (fun entry ↦ location.isPrefixOf entry.1) then
      some .directory
    else none

/-- The most bytes of a name. -/
def maxNameBytes : Nat :=
  255

/-- The most bytes of a path. -/
def maxPathBytes : Nat :=
  4095

/-- Goes from a location to the one that a component leads to. -/
def step (fs : FileSystem) (location : Location) (component : String) :
    Except SystemFailure Location :=
  match fs.entryAt? location with
  | none => .error .notFound
  | some .directory =>
    if maxNameBytes < component.utf8ByteSize then .error .nameTooLong
    else if component = ".." then .ok location.dropLast
    else .ok (location ++ [component])
  | some _ => .error .notDirectory

/-- The location that a path leads to. Whether there is anything is another question. -/
def locate (fs : FileSystem) (path : Path) : Except SystemFailure Location :=
  if path.hasNull then .error .nullCharacter
  else if maxPathBytes < path.toText.utf8ByteSize then .error .nameTooLong
  else path.names.foldlM fs.step (if path.slashes = 0 then fs.workingDirectory else [])

/-- What a search for a location comes to: what there is at the location, if there is anything. A
search that ends early because something is not there finds nothing. -/
def entryOf? (fs : FileSystem) :
    Except SystemFailure Location → Except SystemFailure (Option FileEntry)
  | .ok location => .ok (fs.entryAt? location)
  | .error failure => if failure.isAbsence then .ok none else .error failure

/-- What there is at the end of a path, if there is anything. -/
def lookup? (fs : FileSystem) (path : Path) : Except SystemFailure (Option FileEntry) :=
  fs.entryOf? (fs.locate path)

/-- Whether a path leads to a directory. -/
def isDirectory (fs : FileSystem) (path : Path) : Bool :=
  match fs.lookup? path with
  | .ok (some .directory) => true
  | _ => false

/-- Whether a path leads to a regular file. -/
def isFile (fs : FileSystem) (path : Path) : Except SystemFailure Bool :=
  (fs.lookup? path).map fun
    | some (.file _) => true
    | some (.locked _) => true
    | _ => false

/-- The contents of what was found, if it is a file. -/
def contents? : Option FileEntry → Except SystemFailure (Option (List UInt8))
  | some (.file bytes) => .ok (some bytes)
  | some (.locked refusal) => .error (.refused refusal)
  | _ => .ok none

/-- The contents of the file at the end of a path, if it is a file. -/
def read? (fs : FileSystem) (path : Path) : Except SystemFailure (Option (List UInt8)) :=
  fs.lookup? path >>= contents?

/-- The location of a path by its components alone: a `..` cancels the component before it. -/
def resolve (fs : FileSystem) (path : Path) : Location :=
  ((if path.slashes = 0 then fs.workingDirectory else []) ++ path.names).foldl
    (fun location component ↦
      if component = ".." then location.dropLast else location ++ [component]) []

/-- Puts an entry at a location, in place of the one that is there. -/
def put (fs : FileSystem) (location : Location) (entry : FileEntry) : FileSystem :=
  ⟨fs.workingDirectory,
    fs.entries.filter (fun existing ↦ existing.1 != location) ++ [(location, entry)]⟩

/-- Creates a directory whose parent must exist. -/
def makeDirectory (fs : FileSystem) (path : Path) : Except SystemFailure FileSystem := do
  let location ← fs.locate path
  match fs.entryAt? location with
  | some _ => throw .alreadyExists
  | none =>
    match fs.entryAt? location.dropLast with
    | none => throw .notFound
    | some .directory => return fs.put location .directory
    | some _ => throw .notDirectory

/-- What is left of an attempt to change the files: the files as they are then, and the error that
ended the attempt, if one did. What was done before the error stays done. -/
structure Change where
  files : FileSystem
  error? : Option SystemError
  deriving DecidableEq, Repr

/-- Goes on with the files as they are left, unless there was an error. -/
def Change.andThen (first : Change) (next : FileSystem → Change) : Change :=
  match first.error? with
  | some _ => first
  | none => next first.files

/-- Creates the directory at the end of a path. One that exists is no failure. -/
def ensureDirectory (fs : FileSystem) (path : Path) : Change :=
  match fs.makeDirectory path with
  | .ok made => ⟨made, none⟩
  | .error failure =>
    if fs.isDirectory path then ⟨fs, none⟩ else ⟨fs, some ⟨failure, path⟩⟩

/-- Creates the directory at the end of a path together with those above it that are missing.
`depth` bounds the number of those above. -/
def makeDirectoriesWithin : Nat → FileSystem → Path → Change
  | 0, fs, path => fs.ensureDirectory path
  | depth + 1, fs, path =>
    match fs.makeDirectory path with
    | .error .notFound =>
      (makeDirectoriesWithin depth fs path.parent).andThen (·.ensureDirectory path)
    | _ => fs.ensureDirectory path

/-- Creates the directory at the end of a path together with those above it that are missing. -/
def makeDirectories (fs : FileSystem) (path : Path) : Change :=
  makeDirectoriesWithin path.names.length fs path

/-- Writes a file, whose directory must exist. A file that cannot be opened stays as it is. -/
def write (fs : FileSystem) (path : Path) (bytes : List UInt8) : Change :=
  match fs.locate path with
  | .error failure => ⟨fs, some ⟨failure, path⟩⟩
  | .ok location =>
    match fs.entryAt? location with
    | some .directory => ⟨fs, some ⟨.isDirectory, path⟩⟩
    | some (.locked refusal) => ⟨fs, some ⟨.refused refusal, path⟩⟩
    | some (.file _) => ⟨fs.put location (.file bytes), none⟩
    | none =>
      match fs.entryAt? location.dropLast with
      | some .directory => ⟨fs.put location (.file bytes), none⟩
      | some _ => ⟨fs, some ⟨.notDirectory, path⟩⟩
      | none => ⟨fs, some ⟨.notFound, path⟩⟩

/-- Writes a text to a file. Opening the file empties it, which cannot be undone if there are then
no bytes for the text. -/
def writeText (fs : FileSystem) (path : Path) (text : List Char) : Change :=
  match Text.encode? text with
  | some bytes => fs.write path bytes
  | none => (fs.write path []).andThen fun emptied ↦ ⟨emptied, some ⟨.unencodable, path⟩⟩

/-- The files that `after` has and `before` has not, or not with the same contents. -/
def changedFiles (before after : FileSystem) : List (Location × List UInt8) :=
  after.entries.filterMap fun
    | (location, .file bytes) =>
      if before.entries.lookup location = some (.file bytes) then none else some (location, bytes)
    | _ => none

end FileSystem

end ScriptForms

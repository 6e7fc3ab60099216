/-!
# Paths as text

The textual rules of slash-separated paths: when a path is absolute, how two paths are joined, and
how a path is put into normal form without a look at any file system. In normal form there are no
empty and no `.` components, a `..` cancels the component before it and is dropped at the root, and
exactly two slashes at the front are kept, while longer runs count as one.
-/

namespace ScriptForms.Path

/-- Whether a path starts at the root. -/
def isAbsolute (path : List Char) : Bool :=
  path.head? == some '/'

/-- `path` as seen from the directory `root`. -/
def join (root path : List Char) : List Char :=
  if isAbsolute path then path
  else if root = [] ∨ root.getLast? = some '/' then root ++ path
  else root ++ '/' :: path

/-- The components between slashes, the empty ones included. -/
def components (path : List Char) : List (List Char) :=
  path.splitOn '/'

/-- The number of slashes that the normal form of a path starts with. -/
def leadingSlashes : List Char → Nat
  | '/' :: '/' :: '/' :: _ => 1
  | '/' :: '/' :: _ => 2
  | '/' :: _ => 1
  | _ => 0

/-- Adds a component to the normal form of those before it, given last component first. -/
def pushComponent (absolute : Bool) (done : List (List Char)) (component : List Char) :
    List (List Char) :=
  if component = [] ∨ component = ['.'] then done
  else if component = ['.', '.'] then
    match done with
    | [] => if absolute then [] else [component]
    | last :: rest => if last = ['.', '.'] then component :: done else rest
  else component :: done

/-- The components of the normal form of a path. -/
def normalComponents (path : List Char) : List (List Char) :=
  ((components path).foldl (pushComponent (isAbsolute path)) []).reverse

/-- The normal form of a path. -/
def normalize (path : List Char) : List Char :=
  let text := List.replicate (leadingSlashes path) '/' ++ ['/'].intercalate (normalComponents path)
  if text = [] then ['.'] else text

/-- The path of the directory that holds `path`, without trailing slashes unless it has nothing
else. -/
def directoryOf (path : List Char) : List Char :=
  let head := (path.reverse.dropWhile (· != '/')).reverse
  if head.all (· == '/') then head else (head.reverse.dropWhile (· == '/')).reverse

end ScriptForms.Path

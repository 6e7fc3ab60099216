import ScriptForms.Path.Lexical

/-!
# Paths by their components

A path as a caller of the program names a file: the slashes that it starts with and its components.
Empty components and single points are dropped on reading, and a path without anything is written as
a point. Double points stay, because only a file system can tell what they lead to.
-/

namespace ScriptForms

/-- A path by its components. -/
structure Path where
  /-- The slashes in front: none for a relative path, otherwise one or two. -/
  slashes : Nat
  names : List String
  deriving DecidableEq, Repr

namespace Path

/-- Reads a path. -/
def ofText (text : String) : Path where
  slashes := leadingSlashes text.toList
  names := ((components text.toList).filter fun component ↦
    !(component.isEmpty || component == ['.'])).map String.ofList

/-- The path as text. -/
def toText (path : Path) : String :=
  let text := String.ofList (List.replicate path.slashes '/') ++ "/".intercalate path.names
  if text = "" then "." else text

/-- The path without its last component, if it has one. -/
def parent (path : Path) : Path :=
  ⟨path.slashes, path.names.dropLast⟩

/-- Whether a path holds the character that ends a name in the system. -/
def hasNull (path : Path) : Bool :=
  path.names.any (·.toList.contains '\x00')

end Path

end ScriptForms

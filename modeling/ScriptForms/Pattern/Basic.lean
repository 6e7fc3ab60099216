import ScriptForms.Regex.Match
import ScriptForms.Regex.Reader

/-!
# Patterns

A pattern is the written form of a regular expression together with the expression. Its matches are
given by their offsets, counted in characters, and the texts of their groups.
-/

namespace ScriptForms

/-- A match of a pattern in a text. -/
structure Match where
  start : Nat
  stop : Nat
  /-- The text of each group, or nothing if the group took no part. -/
  groups : List (Option (List Char))
  deriving DecidableEq, Repr

/-- A regular expression with its written form. -/
structure Pattern where
  source : List Char
  regex : Regex
  groupCount : Nat
  deriving DecidableEq, Repr

namespace Pattern

/-- Reads a pattern. -/
def read (source : List Char) : Except Regex.ReadError Pattern :=
  (Regex.read source).map fun (regex, groupCount) ↦ ⟨source, regex, groupCount⟩

/-- The pattern with the given source, if the source can be read. -/
def compile? (source : List Char) : Option Pattern :=
  (read source).toOption

/-- The match from `start` to `stop`. -/
def matchOf (p : Pattern) (start : Nat) (stop : Regex.Place) : Match where
  start := start
  stop := stop.offset
  groups := (List.range p.groupCount).map fun index ↦ stop.captures.lookup (index + 1)

/-- The place at the beginning of a text. -/
def beginning (text : List Char) : Regex.Place :=
  ⟨0, none, text, []⟩

/-- The preferred match of the whole text. -/
def fullMatch? (p : Pattern) (text : List Char) : Option Match :=
  (p.regex.fullMatchAt (beginning text)).map (p.matchOf 0)

/-- The preferred match at the beginning of the text. -/
def match? (p : Pattern) (text : List Char) : Option Match :=
  (p.regex.matchAt (beginning text)).map (p.matchOf 0)

/-- The leftmost match in the text. -/
def search? (p : Pattern) (text : List Char) : Option Match :=
  (p.regex.searchFrom 0 none text).map fun (start, stop) ↦ p.matchOf start stop

end Pattern

end ScriptForms

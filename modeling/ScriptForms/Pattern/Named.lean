import ScriptForms.Dictionary
import ScriptForms.Text.Quoted

/-!
# Tables of named patterns

A table holds patterns under names made of ASCII letters, in the order of their definition. A
pattern is defined by a template, in which `$name` stands for the source of a pattern defined
before. References are resolved by plain substitution: as long as the text holds a reference, the
name of the first one is looked up and all its occurrences are replaced. Substitution may form new
references where texts meet, and these are resolved in turn.

What a source is compiled to is up to a compiler that is handed in, and so is which sources can be
compiled. A table keeps two dictionaries, one with the sources and one with what they are compiled
to. A definition writes them one after the other, once nothing can go wrong any more.
-/

namespace ScriptForms

/-- Why a table refuses a request. -/
inductive PatternError where
  | unresolved (name : String) (template : List Char)
  | invalidName (name : String)
  | alreadyDefined (name : String)
  | unknown (name : String)
  /-- The resolved template cannot be compiled. -/
  | malformed (source : List Char)
  deriving DecidableEq, Repr

/-- The wording of an error. -/
def PatternError.message : PatternError → String
  | unresolved name template =>
    "Unresolved pattern reference '$" ++ name ++ "' in template " ++
      Text.quoted (String.ofList template)
  | invalidName name => "Invalid pattern name: " ++ Text.quoted name
  | alreadyDefined name => "Pattern '" ++ name ++ "' is already defined"
  | unknown name => "Unknown pattern: '" ++ name ++ "'"
  | malformed _ => "Not a regular expression"

/-! ### References in templates -/

namespace Template

/-- The name of the first reference, a dollar sign with letters behind it. -/
def firstReference? : List Char → Option (List Char)
  | [] => none
  | c :: rest =>
    if c = '$' ∧ rest.head?.any Char.isAlpha then some (rest.takeWhile Char.isAlpha)
    else firstReference? rest

/-- Replaces every reference to `name` by `value`, after `skip` characters that are left out. The
letters behind a dollar sign are a reference to `name` only if they are exactly that name. -/
def substituteAfter (name value : List Char) : Nat → List Char → List Char
  | _, [] => []
  | skip + 1, _ :: rest => substituteAfter name value skip rest
  | 0, c :: rest =>
    if c = '$' ∧ rest.takeWhile Char.isAlpha = name then
      value ++ substituteAfter name value name.length rest
    else c :: substituteAfter name value 0 rest

/-- Replaces every reference to `name` by `value`. -/
def substitute (name value text : List Char) : List Char :=
  substituteAfter name value 0 text

/-- Resolves references by `source?` until none is left, or gives the first name without a
source. -/
def resolve (source? : String → Option (List Char)) : Nat → List Char → Except String (List Char)
  | 0, text => .ok text
  | fuel + 1, text =>
    match firstReference? text with
    | none => .ok text
    | some name =>
      match source? (String.ofList name) with
      | none => .error (String.ofList name)
      | some value => resolve source? fuel (substitute name value text)

end Template

/-! ### Tables -/

/-- What a source is compiled to, if it can be compiled. -/
abbrev Compiler (μ : Type) :=
  List Char → Option μ

/-- Named patterns: their sources, and what the sources are compiled to, each in the order of
definition. -/
structure NamedPatterns (μ : Type) where
  sources : List (String × List Char)
  matchers : List (String × μ)
  deriving DecidableEq, Repr

namespace NamedPatterns

variable {μ : Type}

/-- The table without patterns. -/
def empty : NamedPatterns μ :=
  ⟨[], []⟩

/-- The names in the order of their definition. -/
def names (table : NamedPatterns μ) : List String :=
  table.sources.map (·.1)

/-- The number of patterns. -/
def size (table : NamedPatterns μ) : Nat :=
  table.matchers.length

/-- The source of the pattern with the given name. -/
def source? (table : NamedPatterns μ) (name : String) : Option (List Char) :=
  table.sources.lookup name

/-- The source of the pattern with the given name, which must be there. -/
def source (table : NamedPatterns μ) (name : String) : Except PatternError (List Char) :=
  match table.source? name with
  | some text => .ok text
  | none => .error (.unknown name)

/-- The pattern with the given name. -/
def get? (table : NamedPatterns μ) (name : String) : Option μ :=
  table.matchers.lookup name

/-- The pattern with the given name, which must be there. -/
def get (table : NamedPatterns μ) (name : String) : Except PatternError μ :=
  match table.get? name with
  | some matcher => .ok matcher
  | none => .error (.unknown name)

/-- Whether there is a pattern with the given name. -/
def contains (table : NamedPatterns μ) (name : String) : Bool :=
  (table.get? name).isSome

/-! ### Resolution -/

/-- The length of the longest source. -/
def longestSource (table : NamedPatterns μ) : Nat :=
  (table.sources.map fun entry ↦ entry.2.length).foldl max 0

/-- A bound on the substitutions that a template of the given length takes: a dollar sign counts as
a power of the base for the references behind it, and each substitution lowers the sum. -/
def substitutionBound (table : NamedPatterns μ) (length : Nat) : Nat :=
  length * Nat.pow (table.longestSource + 1) length + 1

/-- Resolves every reference in a template. -/
def resolve (table : NamedPatterns μ) (template : List Char) : Except PatternError (List Char) :=
  match Template.resolve table.source? (table.substitutionBound template.length) template with
  | .ok text => .ok text
  | .error name => .error (.unresolved name template)

/-- Compiles a source, which must be possible. -/
def compileSource (compile : Compiler μ) (source : List Char) : Except PatternError μ :=
  match compile source with
  | some matcher => .ok matcher
  | none => .error (.malformed source)

/-- Resolves a template and compiles the result. -/
def expand (compile : Compiler μ) (table : NamedPatterns μ) (template : List Char) :
    Except PatternError μ := do
  compileSource compile (← table.resolve template)

/-! ### Definitions -/

/-- Whether `name` can be referred to: one or more ASCII letters. -/
def isValidName (name : String) : Bool :=
  name.toList ≠ [] && name.toList.all Char.isAlpha

/-- Writes a source into the table. -/
def putSource (name : String) (source : List Char) (table : NamedPatterns μ) : NamedPatterns μ :=
  { table with sources := Dictionary.store name source table.sources }

/-- Writes what a source is compiled to into the table. -/
def putMatcher (name : String) (matcher : μ) (table : NamedPatterns μ) : NamedPatterns μ :=
  { table with matchers := Dictionary.store name matcher table.matchers }

/-- Actions that read and change a table and may fail, with the table as they leave it. -/
abbrev Session (μ : Type) :=
  ExceptT PatternError (StateM (NamedPatterns μ))

/-- Defines a pattern under a new name and gives it. -/
def define (compile : Compiler μ) (name : String) (template : List Char) : Session μ μ := do
  if !isValidName name then throw (.invalidName name)
  let table ← MonadState.get
  if (table.source? name).isSome then throw (.alreadyDefined name)
  let source ← MonadExcept.ofExcept (table.resolve template)
  let matcher ← MonadExcept.ofExcept (compileSource compile source)
  modify (putSource name source)
  modify (putMatcher name matcher)
  return matcher

/-- Defines several patterns, one after the other. -/
def defineAll (compile : Compiler μ) : List (String × List Char) → Session μ Unit
  | [] => return
  | (name, template) :: rest => do
    let _ ← define compile name template
    defineAll compile rest

/-- The table with the given definitions. -/
def ofDefinitions (compile : Compiler μ) (definitions : List (String × List Char)) :
    Except PatternError (NamedPatterns μ) :=
  match (defineAll compile definitions).run.run empty with
  | (.ok _, table) => .ok table
  | (.error cause, _) => .error cause

end NamedPatterns

end ScriptForms

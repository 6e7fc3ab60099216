import ScriptForms.Number.Binary64
import ScriptForms.Toml.Moment

/-!
# TOML documents

The values of the settings files: texts, numbers, truth values, dates and times, arrays and tables.
A table lists its entries in the order in which they were written.
-/

namespace ScriptForms.Toml

/-- A value of a settings file. -/
inductive Value where
  | text (text : String)
  | integer (value : Int)
  | float (value : Binary64)
  | boolean (value : Bool)
  | moment (value : Moment)
  | array (items : List Value)
  | table (entries : List (String × Value))
  deriving Repr, Inhabited

/-- Whether a value holds other values. -/
def Value.isContainer : Value → Bool
  | array _ => true
  | table _ => true
  | _ => false

/-- The entries of a table, in order. -/
abbrev Entries := List (String × Value)

/-- Why a text is no settings file. -/
inductive ReadError where
  | invalidStatement
  | invalidKey
  | expectedEquals
  | invalidValue
  | illegalCharacter
  | unterminatedString
  | badEscape
  | impossibleDate
  | integerTooLong
  | unclosedArray
  | unclosedTable
  | unclosedHeader
  | repeatedHeader
  | repeatedKey
  | closedTable
  | expectedLineEnd
  deriving DecidableEq, Repr

/-- Puts a value under a name that is there already. -/
def replaceEntry (name : String) (value : Value) (entries : Entries) : Entries :=
  entries.map fun entry ↦ if entry.1 = name then (name, value) else entry

/-- Changes the table that a path of names leads to, and makes the tables on the way that are
missing. If `intoArrays` is set, a name of an array leads to the last table in it. -/
def updateAt (intoArrays : Bool) (change : Entries → Except ReadError Entries) :
    List String → Entries → Except ReadError Entries
  | [], entries => change entries
  | name :: path, entries =>
    match entries.lookup name with
    | none => (updateAt intoArrays change path []).map fun inner ↦ entries ++ [(name, .table inner)]
    | some (.table inner) =>
      (updateAt intoArrays change path inner).map fun inner ↦
        replaceEntry name (.table inner) entries
    | some (.array items) =>
      match intoArrays, items.getLast? with
      | true, some (.table inner) =>
        (updateAt intoArrays change path inner).map fun inner ↦
          replaceEntry name (.array (items.dropLast ++ [.table inner])) entries
      | _, _ => .error .repeatedKey
    | some _ => .error .repeatedKey

/-- Adds an entry to a table, which must not have it yet. -/
def addEntry (name : String) (value : Value) (entries : Entries) : Except ReadError Entries :=
  if (entries.lookup name).isSome then .error .repeatedKey else .ok (entries ++ [(name, value)])

/-- Adds an empty table to the array under a name, which is made if it is missing. -/
def addTable (name : String) (entries : Entries) : Except ReadError Entries :=
  match entries.lookup name with
  | none => .ok (entries ++ [(name, .array [.table []])])
  | some (.array items) => .ok (replaceEntry name (.array (items ++ [.table []])) entries)
  | some _ => .error .repeatedKey

end ScriptForms.Toml

import ScriptForms.Dictionary
import ScriptForms.Number.Binary64

/-!
# JSON values

The JSON values that parse trees and settings are written in. Whole numbers and doubles are kept
apart, and an object lists its entries in the order in which they were written. Texts consist of
code points, surrogates among them (`Text.codePoints`).
-/

namespace ScriptForms

/-- A JSON value. -/
inductive Json where
  | null
  | bool (value : Bool)
  | int (value : Int)
  | float (value : Binary64)
  | str (text : String)
  | arr (items : List Json)
  | obj (entries : List (String × Json))
  deriving BEq, Repr, Inhabited

namespace Json

/-- The name of the kind of a value, as messages give it. -/
def kindName : Json → String
  | null => "NoneType"
  | bool _ => "bool"
  | int _ => "int"
  | float _ => "float"
  | str _ => "str"
  | arr _ => "list"
  | obj _ => "dict"

/-- Whether a value counts as true: all do but null, false, zero and whatever is empty. -/
def isTruthy : Json → Bool
  | null => false
  | bool value => value
  | int value => value != 0
  | float value => !value.isZero
  | str text => text != ""
  | arr items => !items.isEmpty
  | obj entries => !entries.isEmpty

/-- The value stored under `name`, if the value is an object that has it. -/
def get? (name : String) : Json → Option Json
  | obj entries => entries.lookup name
  | _ => none

/-- The object with the given entries. A repeated name keeps its first place and its last value. -/
def ofEntries (entries : List (String × Json)) : Json :=
  obj (Dictionary.ofEntries entries)

end Json

end ScriptForms

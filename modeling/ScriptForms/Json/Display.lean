import ScriptForms.Json.Basic
import ScriptForms.Number.Shortest
import ScriptForms.Text.Quoted

/-!
# JSON values in messages

How a message shows a JSON value: `None`, `True` and `False`, numbers in decimal, quoted texts,
lists in brackets and objects in braces, all on one line.
-/

namespace ScriptForms.Json

/-- The text of a truth value. -/
def displayBool (value : Bool) : String :=
  if value then "True" else "False"

mutual

/-- The text of a value in a message. -/
def display : Json → String
  | null => "None"
  | bool value => displayBool value
  | int value => toString value
  | float value => value.toText
  | str text => Text.quotedCodePoints text
  | arr items => "[" ++ ", ".intercalate (displayItems items) ++ "]"
  | obj entries => "\x7b" ++ ", ".intercalate (displayEntries entries) ++ "\x7d"

/-- The texts of the items of a list. -/
def displayItems : List Json → List String
  | [] => []
  | item :: rest => item.display :: displayItems rest

/-- The texts of the entries of an object. -/
def displayEntries : List (String × Json) → List String
  | [] => []
  | (name, value) :: rest => (Text.quotedCodePoints name ++ ": " ++ value.display) ::
    displayEntries rest

end

end ScriptForms.Json

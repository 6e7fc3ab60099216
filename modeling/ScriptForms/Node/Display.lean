import ScriptForms.Json.Display
import ScriptForms.Value

/-!
# Nodes and values in messages

How a message shows a node or a value: its tag with its content in parentheses. The items of a
sequence are listed in parentheses of their own, with a comma behind a lone item.
-/

namespace ScriptForms

/-- The tag of a kind of text node. -/
def TextKind.tag : TextKind → String
  | string => "Str"
  | character => "Chr"
  | qualified => "Spc"
  | symbol => "Sym"
  | token => "Tok"
  | keyword => "Key"
  | integer => "Int"
  | decimal => "Flt"

/-- The tag of a kind of sequence node. -/
def SeqKind.tag : SeqKind → String
  | list => "Lst"
  | vector => "Vec"
  | map => "Map"
  | pairs => "Pairs"
  | forms => "Forms"

/-- The text of several items in parentheses. -/
def displayTuple : List String → String
  | [item] => "(" ++ item ++ ",)"
  | items => "(" ++ ", ".intercalate items ++ ")"

namespace Node

mutual

/-- The text of a node in a message. -/
def display : Node → String
  | empty => "Empty()"
  | nil => "Nil()"
  | bool value => "Bln(value=" ++ Json.displayBool value ++ ")"
  | text kind content => kind.tag ++ "(text=" ++ Text.quotedCodePoints content ++ ")"
  | seq kind items => kind.tag ++ "(items=" ++ displayTuple (displayItems items) ++ ")"
  | group items => displayTuple (displayItems items)

/-- The texts of several nodes. -/
def displayItems : List Node → List String
  | [] => []
  | item :: rest => item.display :: displayItems rest

end

end Node

namespace Value

mutual

/-- The text of a value in a message. -/
def display : Value → String
  | absent => "None"
  | node n => n.display
  | group items => displayTuple (displayItems items)
  | splice items => "Splice(nodes=" ++ displayTuple (displayItems items) ++ ")"

/-- The texts of several values. -/
def displayItems : List Value → List String
  | [] => []
  | item :: rest => item.display :: displayItems rest

end

end Value

end ScriptForms

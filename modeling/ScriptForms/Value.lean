import ScriptForms.Node.Basic

/-!
# Values between lowering steps

Lowering one side of a key and value pair gives a value: nothing at all, a node, a group of values,
or a splice, whose values take the place of the one that was lowered. There are two ways to inline
what is nested: `flatten` goes through groups and splices at every depth and drops what is absent,
while `openSplices` opens only the splices that stand directly in a list.
-/

namespace ScriptForms

namespace Node

mutual

/-- The single nodes that a node stands for: the members of a group, at every depth, or the node. -/
def members : Node → List Node
  | group items => membersOf items
  | node => [node]

/-- The single nodes that the nodes of a list stand for. -/
def membersOf : List Node → List Node
  | [] => []
  | item :: rest => members item ++ membersOf rest

end

end Node

/-- What one side of a pair lowers to. -/
inductive Value where
  | absent
  | node (node : Node)
  | group (items : List Value)
  | splice (items : List Value)
  deriving Repr, Inhabited

namespace Value

mutual

/-- The nodes of a value, with groups and splices inlined at every depth. -/
def flatten : Value → List Node
  | absent => []
  | node n => n.members
  | group items => flattenAll items
  | splice items => flattenAll items

/-- The nodes of several values, in order. -/
def flattenAll : List Value → List Node
  | [] => []
  | item :: rest => flatten item ++ flattenAll rest

end

/-- The values with the direct splices among them opened. -/
def openSplices (values : List Value) : List Value :=
  values.flatMap fun
    | splice items => items
    | value => [value]

/-- The form for a lowered key and value: the value alone after an arrow, the key alone if it is a
string without a value, and otherwise the call of the key on the value. -/
def call : Value → Value → Value
  | node (.sym "=>"), value => value
  | node (.text .string text), absent => node (.text .string text)
  | key, value => node (.list (flattenAll [key, value]))

end Value

end ScriptForms

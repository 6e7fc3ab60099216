import ScriptForms.Node.Error

/-!
# Nodes as JSON

A parser hands over a tree as JSON: a node is an object with one entry, its tag and its content, or
a bare tag, which is short for that tag with the content `true`. A list of nodes is a group.
`Node.ofJson` reads such a value and reports the first offender in reading order; `Node.toJson`
writes a node in its normal form.
-/

namespace ScriptForms

/-- What a tag announces. -/
inductive Tag where
  | empty
  | nil
  | bool
  | text (kind : TextKind)
  | seq (kind : SeqKind)
  deriving DecidableEq, Repr

/-- The tag with the given name. The two provisional tags may also be written in lower case. -/
def Tag.ofName? : String → Option Tag
  | "Empty" => some .empty
  | "Nil" => some .nil
  | "Bln" => some .bool
  | "Str" => some (.text .string)
  | "Chr" => some (.text .character)
  | "Spc" => some (.text .qualified)
  | "Sym" => some (.text .symbol)
  | "Tok" => some (.text .token)
  | "Key" => some (.text .keyword)
  | "Int" => some (.text .integer)
  | "Flt" => some (.text .decimal)
  | "Lst" => some (.seq .list)
  | "Vec" => some (.seq .vector)
  | "Map" => some (.seq .map)
  | "Pairs" => some (.seq .pairs)
  | "pairs" => some (.seq .pairs)
  | "Forms" => some (.seq .forms)
  | "forms" => some (.seq .forms)
  | _ => none

/-- The text that a scalar content stands for. -/
def Json.scalarText? : Json → Option String
  | bool value => some (if value then "true" else "false")
  | str text => some text
  | int value => some (toString value)
  | float value => some value.toText
  | _ => none

namespace Node

/-- The node with the given tag and a content that holds no nodes. -/
def ofEntry (name : String) (payload : Json) : Except NodeError Node :=
  let raw := Json.obj [(name, payload)]
  match Tag.ofName? name with
  | none => .error (.unknownJson raw)
  | some .empty => .ok empty
  | some .nil => .ok nil
  | some .bool =>
    match payload with
    | .str content => .ok (bool (content == "true"))
    | payload => .ok (bool payload.isTruthy)
  | some (.text kind) =>
    match payload.scalarText? with
    | some content => .ok (text kind content)
    | none => .error (.scalarPayload raw)
  | some (.seq kind) =>
    match payload with
    | .bool true => .ok (seq kind [])
    | _ => .error (.sequencePayload raw)

mutual

/-- Reads a node, or reports the first value that is none. -/
def ofJson : Json → Except NodeError Node
  | .arr items => (ofJsonItems items).map group
  | .str name => ofEntry name (.bool true)
  | .obj [(name, .arr items)] =>
    match Tag.ofName? name with
    | some (.seq kind) => (ofJsonItems items).map (seq kind)
    | _ => ofEntry name (.arr items)
  | .obj [(name, payload)] => ofEntry name payload
  | raw => .error (.unknownJson raw)

/-- Reads the nodes of a list. -/
def ofJsonItems : List Json → Except NodeError (List Node)
  | [] => .ok []
  | item :: rest => do
    let node ← ofJson item
    let nodes ← ofJsonItems rest
    return node :: nodes

end

mutual

/-- The normal form of a node as JSON. -/
def toJson : Node → Json
  | empty => .str "Empty"
  | nil => .str "Nil"
  | bool value => .obj [("Bln", .bool value)]
  | text kind content => .obj [(kind.tag, .str content)]
  | seq kind items => .obj [(kind.tag, .arr (toJsonItems items))]
  | group items => .arr (toJsonItems items)

/-- The normal forms of several nodes. -/
def toJsonItems : List Node → List Json
  | [] => []
  | item :: rest => toJson item :: toJsonItems rest

end

end Node

namespace Value

mutual

/-- A value as JSON, if it is made of nodes and groups only. -/
def toJson : Value → Except NodeError Json
  | node n => .ok n.toJson
  | group items => (toJsonItems items).map .arr
  | absent => .error (.unknownValue absent)
  | splice items => .error (.unknownValue (splice items))

/-- Several values as JSON. -/
def toJsonItems : List Value → Except NodeError (List Json)
  | [] => .ok []
  | item :: rest => do
    let raw ← toJson item
    let raws ← toJsonItems rest
    return raw :: raws

end

end Value

end ScriptForms

import ScriptForms.Node.Display

/-!
# What is not a node

The reasons for which a JSON value is no node, a value cannot be written back, or a node cannot be
printed, each with the offender.
-/

namespace ScriptForms

/-- Why something is not a node that can be taken. -/
inductive NodeError where
  /-- A JSON value of no node: no tag, several tags or an unknown one. -/
  | unknownJson (raw : Json)
  /-- A sequence tag whose content is not a list. -/
  | sequencePayload (raw : Json)
  /-- A text tag whose content is not a scalar. -/
  | scalarPayload (raw : Json)
  /-- A value that is no node and cannot be written back. -/
  | unknownValue (value : Value)
  /-- A node that is not part of a finished program. -/
  | unprintable (node : Node)
  /-- A JSON value given for printing that is neither a tag nor an object. -/
  | unprintableJson (raw : Json)

/-- Whether a node is one of those that only a parser writes. -/
def Node.isProvisional : Node → Bool
  | seq kind _ => kind.isProvisional
  | _ => false

/-- The wording of an error. -/
def NodeError.message : NodeError → String
  | unknownJson raw => "Unknown AST node type: " ++ raw.display
  | sequencePayload raw => "Expected a sequence payload in " ++ raw.display
  | scalarPayload raw => "Expected a scalar payload in " ++ raw.display
  | unknownValue value => "Unknown AST node type: " ++ value.display
  | unprintable node =>
    "Unknown AST node type (" ++ (if node.isProvisional then "provisional" else "unknown") ++
      "): " ++
      node.display
  | unprintableJson raw => "Unknown AST node type (unknown): " ++ raw.display

end ScriptForms

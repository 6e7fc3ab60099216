import ScriptForms.Node.Json

/-!
# Nodes as Clojure text

The Clojure text of a node of a finished program. Children are separated by one blank, the pairs of
a map by a comma and a blank; the last item of a map with an odd number of items is left out.
Provisional nodes and groups have no text: the first of them that would have to be written is
reported.
-/

namespace ScriptForms

/-- A character inside a string literal. -/
def escapeChar : Char → List Char
  | '\\' => ['\\', '\\']
  | '\x22' => ['\\', '\x22']
  | '\n' => ['\\', 'n']
  | c => [c]

/-- The inside of a string literal: backslash, double quote and line feed are escaped. -/
def escapeString (text : String) : String :=
  String.ofList (text.toList.flatMap escapeChar)

/-- A qualified name with its parts joined by points instead of double colons. -/
def dotted : List Char → List Char
  | ':' :: ':' :: rest => '.' :: dotted rest
  | c :: rest => c :: dotted rest
  | [] => []

/-- The Clojure text of a text node. -/
def TextKind.print (kind : TextKind) (text : String) : String :=
  match kind with
  | string => "\x22" ++ escapeString text ++ "\x22"
  | character => "\\" ++ text
  | qualified => String.ofList (dotted text.toList)
  | _ => text

namespace Node

mutual

/-- The Clojure text of a node. -/
def print : Node → Except NodeError String
  | empty => .ok ""
  | nil => .ok "nil"
  | bool value => .ok (if value then "true" else "false")
  | text kind content => .ok (kind.print content)
  | seq .list items => (printItems items).map fun texts ↦ "(" ++ " ".intercalate texts ++ ")"
  | seq .vector items => (printItems items).map fun texts ↦ "[" ++ " ".intercalate texts ++ "]"
  | seq .map items =>
    (printPairs items).map fun texts ↦ "\x7b" ++ ", ".intercalate texts ++ "\x7d"
  | seq .pairs items => .error (.unprintable (seq .pairs items))
  | seq .forms items => .error (.unprintable (seq .forms items))
  | group items => .error (.unprintable (group items))

/-- The Clojure texts of several nodes. -/
def printItems : List Node → Except NodeError (List String)
  | [] => .ok []
  | item :: rest => do
    let first ← print item
    let texts ← printItems rest
    return first :: texts

/-- The Clojure texts of the key and value pairs of a map; a key without a value is left out. -/
def printPairs : List Node → Except NodeError (List String)
  | key :: value :: rest => do
    let keyText ← print key
    let valueText ← print value
    let texts ← printPairs rest
    return (keyText ++ " " ++ valueText) :: texts
  | _ => .ok []

end

/-- The Clojure text of a node given as JSON. Only bare tags and objects are read as nodes. -/
def printJson (raw : Json) : Except NodeError String :=
  match raw with
  | .str _ => ofJson raw >>= print
  | .obj _ => ofJson raw >>= print
  | _ => .error (.unprintableJson raw)

end Node

end ScriptForms

/-!
# Syntax tree nodes

A node is a scalar, a sequence of nodes or a group. Scalars are the empty document, nil, truth
values and eight kinds of text. Sequences are lists, vectors and maps, which make up a finished
program, and two provisional kinds that only a parser writes: `pairs`, whose items alternate key and
value, and `forms`, an implicit block of statements. A group is a compound key such as `let x`,
several nodes that stand in the place of one.
-/

namespace ScriptForms

/-- The kinds of node that hold a text. -/
inductive TextKind where
  | string
  | character
  /-- A name in a namespace, with `::` between its parts. -/
  | qualified
  | symbol
  /-- A token that is written as it stands. -/
  | token
  | keyword
  | integer
  | decimal
  deriving DecidableEq, Repr

/-- The kinds of node that hold a sequence of nodes. -/
inductive SeqKind where
  | list
  | vector
  /-- A map literal, whose items alternate key and value. -/
  | map
  /-- A mapping as a parser writes it; its items alternate key and value. -/
  | pairs
  /-- An implicit block of statements. -/
  | forms
  deriving DecidableEq, Repr

/-- Whether only a parser writes sequences of this kind. -/
def SeqKind.isProvisional : SeqKind → Bool
  | pairs => true
  | forms => true
  | _ => false

/-- A node of a syntax tree. -/
inductive Node where
  /-- The empty document. -/
  | empty
  | nil
  | bool (value : Bool)
  | text (kind : TextKind) (text : String)
  | seq (kind : SeqKind) (items : List Node)
  /-- Several nodes in the place of one. -/
  | group (items : List Node)
  deriving Repr, Inhabited

namespace Node

/-- The symbol `name`. -/
@[match_pattern]
abbrev sym (name : String) : Node :=
  text .symbol name

/-- A parenthesised list, that is, a call. -/
@[match_pattern]
abbrev list (items : List Node) : Node :=
  seq .list items

/-- A vector. -/
@[match_pattern]
abbrev vector (items : List Node) : Node :=
  seq .vector items

/-! ### Equality -/

mutual

/-- Whether two nodes are the same. -/
def beq : Node → Node → Bool
  | empty, empty => true
  | nil, nil => true
  | bool a, bool b => a == b
  | text k a, text l b => k == l && a == b
  | seq k xs, seq l ys => k == l && beqItems xs ys
  | group xs, group ys => beqItems xs ys
  | _, _ => false

/-- Whether two lists hold the same nodes. -/
def beqItems : List Node → List Node → Bool
  | [], [] => true
  | x :: xs, y :: ys => beq x y && beqItems xs ys
  | _, _ => false

end

mutual

/-- The comparison of nodes decides their equality. -/
theorem beq_iff_eq : ∀ a b : Node, beq a b = true ↔ a = b
  | empty, b => by cases b <;> simp [beq]
  | nil, b => by cases b <;> simp [beq]
  | bool _, b => by cases b <;> simp [beq]
  | text _ _, b => by cases b <;> simp [beq]
  | seq _ xs, b => by cases b <;> simp [beq, beqItems_iff_eq xs]
  | group xs, b => by cases b <;> simp [beq, beqItems_iff_eq xs]

theorem beqItems_iff_eq : ∀ xs ys : List Node, beqItems xs ys = true ↔ xs = ys
  | [], ys => by cases ys <;> simp [beqItems]
  | x :: xs, ys => by cases ys <;> simp [beqItems, beq_iff_eq x, beqItems_iff_eq xs]

end

instance : DecidableEq Node :=
  fun a b ↦ decidable_of_iff (beq a b = true) (beq_iff_eq a b)

/-! ### Calls -/

/-- Whether the node is the symbol `name`. -/
def isSymbol (name : String) : Node → Bool
  | sym found => found == name
  | _ => false

/-- The symbol at the head of a list. -/
def headSymbol? : Node → Option String
  | list (sym name :: _) => some name
  | _ => none

/-- The name that a `defn` list defines. -/
def functionName? : Node → Option String
  | list (sym "defn" :: sym name :: _) => some name
  | _ => none

end Node

end ScriptForms

import ScriptForms.Log
import ScriptForms.Value

/-!
# Lowering

Lowering turns the provisional nodes of a parse tree into calls. A mapping becomes one form for each
of its pairs, and a run of `let` pairs becomes one `let` form whose body is the rest of the mapping.
A block becomes the sequence of its statements, without arrows. Both are spliced into the list or
block around them. Vectors, maps and scalars stay as they are, and so does a group that is not one
side of a pair.

Lowering is a fold. Each node gives an `Item`, which holds everything that its parent may ask for:
the node, what it lowers to on its own and as one side of a pair, and its single terms, each beside
what it lowers to. The rule for a mapping works on the items of its children and calls nothing
recursively, so every node is lowered once.
-/

namespace ScriptForms

/-- What a node lowers to. -/
inductive Lowered where
  /-- One node in its place. -/
  | single (node : Node)
  /-- Several nodes that take its place. -/
  | splice (nodes : List Node)
  deriving DecidableEq, Repr

namespace Lowered

/-- The nodes that take the place of the one that was lowered. -/
def nodes : Lowered → List Node
  | single node => [node]
  | splice nodes => nodes

/-- The lowered node as a value. -/
def toValue : Lowered → Value
  | single node => .node node
  | splice nodes => .splice (nodes.map .node)

end Lowered

/-- The size of a `let` form: its bindings and the forms of its body. -/
structure LetReport where
  bindings : Nat
  body : Nat
  deriving DecidableEq, Repr

/-- The log record of a `let` form. -/
def LetReport.record (report : LetReport) : LogRecord :=
  .plain .debug ("let form with " ++ toString report.bindings ++ " bindings, " ++
    toString report.body ++ " body forms")

namespace Lowering

/-- A single node beside what it lowers to and the `let` forms built on the way. -/
structure Term where
  node : Node
  lowered : Lowered
  reports : List LetReport

/-- A node with everything that its parent may ask for. -/
structure Item where
  node : Node
  /-- What the node lowers to on its own. -/
  lowered : Lowered
  /-- The `let` forms built for `lowered`, in order. -/
  reports : List LetReport
  /-- What the node lowers to as one side of a pair. -/
  side : Value
  /-- The `let` forms built for `side`, in order. -/
  sideReports : List LetReport
  /-- The single nodes of the node, with groups inlined. -/
  terms : List Term

/-- A key with its value, if it has one. -/
structure Pair where
  key : Item
  value : Option Item

/-! ### Mappings -/

/-- The pairs of a mapping, from its alternating keys and values. -/
def pairsOf : List Item → List Pair
  | [] => []
  | [key] => [⟨key, none⟩]
  | key :: value :: rest => ⟨key, some value⟩ :: pairsOf rest

namespace Pair

/-- Whether the pair belongs to a `let` form: its key is the symbol `let` or a group that starts
so. -/
def isLet (pair : Pair) : Bool :=
  match pair.key.node with
  | .group (first :: _) => first.isSymbol "let"
  | node => node.isSymbol "let"

/-- The terms of a `let` pair: names and values in turn. -/
def terms (pair : Pair) : List Term :=
  (pair.key.terms ++ (pair.value.map Item.terms).getD []).filter (!·.node.isSymbol "let")

/-- The forms of a pair that is no `let` pair. -/
def forms (pair : Pair) : List Node :=
  (Value.call pair.key.side ((pair.value.map Item.side).getD .absent)).flatten

/-- The `let` forms built for the sides of a pair. -/
def reports (pair : Pair) : List LetReport :=
  pair.key.sideReports ++ (pair.value.map Item.sideReports).getD []

end Pair

/-- The one node for a block of statements: nil for none, the statement itself for one, and a `do`
call for more. -/
def oneNode : List Node → Node
  | [] => .nil
  | [node] => node
  | nodes => .list (.sym "do" :: nodes)

/-- The one call for a mapping: its first form, put into a list unless it is one. -/
def oneCall : List Node → Node
  | [] => .list []
  | .list items :: _ => .list items
  | node :: _ => .list node.members

/-- The one node that a binding holds for a value. -/
def Term.bound (term : Term) : Node :=
  match term.node with
  | .seq .pairs _ => oneCall term.lowered.nodes
  | _ => oneNode term.lowered.nodes

/-- The contents of a binding vector, from names and values in turn. A name stands as it is
written. -/
def bindings : List Term → List Node
  | [] => []
  | [name] => [name.node]
  | name :: value :: rest => name.node :: (value.bound.members ++ bindings rest)

/-- The `let` forms built for the values of a binding vector. -/
def bindingReports : List Term → List LetReport
  | [] => []
  | [_] => []
  | _ :: value :: rest => value.reports ++ bindingReports rest

/-- The forms of a mapping whose body is known: a `let` form around it if terms were collected. -/
def close : Option (List Term) → List Node → List Node
  | none, body => body
  | some terms, body => [.list (.sym "let" :: .vector (bindings terms) :: body)]

/-- The reports of a mapping whose body is known. -/
def closeReports : Option (List Term) → List Node → List LetReport → List LetReport
  | none, _, reports => reports
  | some terms, body, reports =>
    bindingReports terms ++ reports ++ [⟨(bindings terms).length / 2, body.length⟩]

/-- The forms of a mapping, from its pairs. A run of `let` pairs is collected in `lets` and closed
by the first pair that is none, or by the end. -/
def pairForms (lets : Option (List Term)) : List Pair → List Node
  | [] => close lets []
  | pair :: rest =>
    if pair.isLet then pairForms (some (lets.getD [] ++ pair.terms)) rest
    else close lets (pair.forms ++ pairForms none rest)

/-- The reports of a mapping, from its pairs. -/
def pairReports (lets : Option (List Term)) : List Pair → List LetReport
  | [] => closeReports lets [] []
  | pair :: rest =>
    if pair.isLet then pairReports (some (lets.getD [] ++ pair.terms)) rest
    else
      closeReports lets (pair.forms ++ pairForms none rest) (pair.reports ++ pairReports none rest)

/-! ### Blocks and lists -/

/-- The statements of a block: arrows are dropped and splices opened. -/
def blockForms (items : List Item) : List Node :=
  (items.filter fun item ↦ item.lowered != .single (.sym "=>")).flatMap (·.lowered.nodes)

/-- The items of a list, with splices opened. -/
def listItems (items : List Item) : List Node :=
  items.flatMap (·.lowered.nodes)

/-! ### The fold -/

/-- The item of a node that is no group. -/
def Item.ofLowered (node : Node) (lowered : Lowered) (reports : List LetReport) : Item where
  node := node
  lowered := lowered
  reports := reports
  side := lowered.toValue
  sideReports := reports
  terms := [⟨node, lowered, reports⟩]

/-- The item of a group, from the items of its members. On its own a group stays as it is; as one
side of a pair its members are lowered. -/
def Item.ofGroup (members : List Node) (items : List Item) : Item where
  node := .group members
  lowered := .single (.group members)
  reports := []
  side := .group (items.map (·.lowered.toValue))
  sideReports := items.flatMap (·.reports)
  terms := items.flatMap (·.terms)

mutual

/-- The item of a node. -/
def item : Node → Item
  | .group members => .ofGroup members (items members)
  | .seq .pairs nodes =>
    let pairs := pairsOf (items nodes)
    .ofLowered (.seq .pairs nodes) (.splice (pairForms none pairs)) (pairReports none pairs)
  | .seq .forms nodes =>
    let items := items nodes
    .ofLowered (.seq .forms nodes) (.splice (blockForms items)) (items.flatMap (·.reports))
  | .seq .list nodes =>
    let items := items nodes
    .ofLowered (.seq .list nodes) (.single (.list (listItems items))) (items.flatMap (·.reports))
  | node => .ofLowered node (.single node) []

/-- The items of several nodes. -/
def items : List Node → List Item
  | [] => []
  | node :: rest => item node :: items rest

end

end Lowering

/-- What a node lowers to. -/
def Node.lower (node : Node) : Lowered :=
  (Lowering.item node).lowered

/-- The `let` forms built while a node is lowered, in order. -/
def Node.letReports (node : Node) : List LetReport :=
  (Lowering.item node).reports

/-- The forms of a mapping, from its alternating keys and values. -/
def Node.mappingForms (items : List Node) : List Node :=
  Lowering.pairForms none (Lowering.pairsOf (Lowering.items items))

end ScriptForms

import ScriptForms.Lowering
import ScriptForms.Node.Printer

/-!
# Programs

A program is the sequence of its top-level forms. Two passes complete it. The first declares, ahead
of everything but a leading `ns` form, the functions that are mentioned before their definition. The
second calls `main` at the end if the program defines it.
-/

namespace ScriptForms

/-- The top-level forms of a program, in order. -/
structure Program where
  forms : List Node
  deriving DecidableEq, Repr

namespace Program

/-- The program that a node lowers to. -/
def ofNode (node : Node) : Program :=
  ⟨node.lower.nodes⟩

/-! ### Forward references -/

/-- What a walk through a program has met so far. -/
structure Walk where
  /-- The functions defined so far. -/
  known : List String
  /-- The functions mentioned before their definition, in order of discovery. -/
  early : List String

/-- Meets a node itself: a definition counts from here on, and a symbol is recorded once if it names
one of `names` that is not defined yet. -/
def Walk.meet (names : List String) (node : Node) (walk : Walk) : Walk :=
  match node, node.functionName? with
  | _, some name => ⟨name :: walk.known, walk.early⟩
  | .sym name, none =>
    if names.contains name && !walk.known.contains name && !walk.early.contains name then
      ⟨walk.known, walk.early ++ [name]⟩
    else walk
  | _, none => walk

mutual

/-- Walks through a node, the node before its items. -/
def Walk.visit (names : List String) : Node → Walk → Walk
  | .seq kind items, walk => Walk.visitAll names items (walk.meet names (.seq kind items))
  | node, walk => walk.meet names node

/-- Walks through several nodes in order. -/
def Walk.visitAll (names : List String) : List Node → Walk → Walk
  | [], walk => walk
  | node :: rest, walk => Walk.visitAll names rest (Walk.visit names node walk)

end

/-- Those of `names` that are mentioned before they are defined, in order of first mention. -/
def forwardReferences (names : List String) (program : Program) : List String :=
  (Walk.visitAll names program.forms ⟨[], []⟩).early

/-- The functions that the top-level forms define. -/
def definedNames (program : Program) : List String :=
  program.forms.filterMap Node.functionName?

/-- The functions to declare ahead. -/
def undeclared (program : Program) : List String :=
  program.forwardReferences program.definedNames

/-- The form that declares the given functions. -/
def declaration (names : List String) : Node :=
  .list (.sym "declare" :: names.map .sym)

/-- Puts `form` behind a leading `ns` form, or in front if there is none. -/
def insertAhead (form : Node) : List Node → List Node
  | first :: rest =>
    if first.headSymbol? = some "ns" then first :: form :: rest else form :: first :: rest
  | [] => [form]

/-- Declares the functions that are mentioned before their definition. -/
def declareForward (program : Program) : Program :=
  match program.undeclared with
  | [] => program
  | names => ⟨insertAhead (declaration names) program.forms⟩

/-- The log of `declareForward`. -/
def declarationLog (program : Program) : List LogRecord :=
  match program.undeclared with
  | [] => []
  | names => [.plain .debug ("Forward declaring: " ++ ", ".intercalate names)]

/-! ### The main call -/

/-- The form that runs the program. -/
def mainCall : Node :=
  .list [.sym "apply", .sym "main", .sym "ARGV"]

/-- Appends the call of `main` if a top-level form defines it. -/
def appendMainCall (program : Program) : Program :=
  if program.forms.any (·.functionName? = some "main") then ⟨program.forms ++ [mainCall]⟩
  else program

/-! ### Whole documents -/

/-- The finished program of a document. -/
def ofDocument (node : Node) : Program :=
  (ofNode node).declareForward.appendMainCall

/-- The log of `ofDocument`. -/
def documentLog (node : Node) : List LogRecord :=
  node.letReports.map LetReport.record ++ (ofNode node).declarationLog

/-- A program as JSON. -/
def toJson (program : Program) : Json :=
  .obj [("Top", .arr (Node.toJsonItems program.forms))]

/-- The Clojure text of a program, one top-level form a line. -/
def print (program : Program) : Except NodeError String :=
  (Node.printItems program.forms).map ("\n".intercalate ·)

end Program

end ScriptForms

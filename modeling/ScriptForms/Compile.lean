import ScriptForms.Context
import ScriptForms.Formatter

/-!
# Compiling documents

A document is compiled in four steps: its tree is read, lowered to a program, printed and formatted.
The first step that fails ends the compilation. There are two ways in: `compile` gives the text or
the error, and `CompileReport.ofTree` takes the steps one by one, reports on the outcome and logs
how it went. A fault of the formatter's run is no error to report on: it ends either of them.
-/

namespace ScriptForms

/-- Why a document cannot be compiled. -/
inductive CompileError where
  | node (cause : NodeError)
  | context (cause : ContextError)
  | format (cause : FormatError)

namespace CompileError

/-- The name of the kind of an error. -/
def label : CompileError → String
  | node _ => "UnknownNodeError"
  | context _ => "InternalInvariantError"
  | format _ => "FormatterError"

/-- The wording of an error. -/
def message : CompileError → String
  | node cause => cause.message
  | context cause => cause.message
  | format cause => cause.message

end CompileError

/-- The program of a tree in a context. -/
def Program.build (tree : Json) (context : Context) : Except CompileError Program := do
  let node ← (Node.ofJson tree).mapError .node
  let _ ← (context.lower node).mapError .context
  return .ofDocument node

/-- The log of the construction of a program from a tree. -/
def buildLog (tree : Json) : List LogRecord :=
  match Node.ofJson tree with
  | .ok node => Program.documentLog node
  | .error _ => []

/-- A compilation, with what happened on the way. -/
structure Compilation where
  /-- The text, and the number of top-level forms. -/
  result : Except (Raised CompileError) (String × Nat)
  calls : List ToolCall
  log : List LogRecord

/-- The printed text of a tree, with the number of its top-level forms. -/
def printTree (tree : Json) : Except CompileError (String × Nat) := do
  let program ← Program.build tree .root
  let text ← program.print.mapError .node
  return (text, program.forms.length)

/-- What is raised by formatting, as it ends a compilation. -/
def Raised.ofFormat : Raised FormatError → Raised CompileError
  | error cause => error (.format cause)
  | fault cause => fault cause

/-- Compiles a tree. -/
def compile (tool : Tool) (formatter : Formatter) (tree : Json) : Compilation :=
  match printTree tree with
  | .error e => ⟨.error (.error e), [], buildLog tree⟩
  | .ok (text, count) =>
    let formatting := formatter.format tool text
    ⟨(formatting.result.mapError .ofFormat).map (·, count), formatting.calls,
      buildLog tree ++ formatting.log⟩

/-- What a compilation comes to: the text, or the errors. -/
structure Outcome where
  code : String
  errors : List String
  success : Bool
  formCount : Nat
  deriving DecidableEq, Repr

namespace Outcome

/-- Whether errors were reported. -/
def hasErrors (outcome : Outcome) : Bool :=
  !outcome.errors.isEmpty

/-- The outcome of a compilation that has failed. -/
def failure (e : CompileError) : Outcome :=
  ⟨"", [e.label ++ ": " ++ e.message], false, 0⟩

end Outcome

/-- An outcome, with what happened on the way. -/
structure CompileReport where
  /-- The outcome, or the fault of the formatter's run that ended everything. -/
  outcome : Except ToolFault Outcome
  calls : List ToolCall
  log : List LogRecord

namespace CompileReport

/-- The report on a compilation that has failed. -/
def failure (e : CompileError) (calls : List ToolCall) (log : List LogRecord) : CompileReport :=
  ⟨.ok (.failure e), calls, log ++ [.plain .error ("Compilation failed: " ++ e.message)]⟩

/-- Compiles a tree by a configuration and reports on it. -/
def ofTree (tool : Tool) (config : Config) (tree : Json) : CompileReport :=
  match Program.build tree .root with
  | .error e => .failure e [] (buildLog tree)
  | .ok program =>
    match program.print with
    | .error e => .failure (.node e) [] (buildLog tree)
    | .ok text =>
      let formatting := (Formatter.ofConfig config).format tool text
      let log := buildLog tree ++ formatting.log
      match formatting.result with
      | .error (.fault fault) => ⟨.error fault, formatting.calls, log⟩
      | .error (.error e) => .failure (.format e) formatting.calls log
      | .ok code =>
        let count := program.forms.length
        ⟨.ok ⟨code, [], true, count⟩, formatting.calls,
          log ++ [.plain .debug ("Compiled " ++ toString count ++ " top-level forms")]⟩

end CompileReport

end ScriptForms

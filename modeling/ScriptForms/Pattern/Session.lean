import ScriptForms.Pattern.Named

/-!
# Sessions on a table of patterns

A session keeps one table and performs requests on it, one after the other: definitions, the
expansion of templates, and questions about the patterns that are there. A request may fail. What it
has done to the table by then is not undone, and the session goes on with the next request.
-/

namespace ScriptForms

namespace NamedPatterns

variable {μ : Type}

/-- What can be asked of a table. -/
inductive Request where
  /-- Define a pattern under a name. -/
  | define (name : String) (template : List Char)
  /-- Resolve a template and compile it. -/
  | expand (template : List Char)
  /-- Resolve a template. -/
  | interpolate (template : List Char)
  /-- Give the source of the pattern with a name. -/
  | source (name : String)
  /-- Give the pattern with a name. -/
  | get (name : String)
  /-- Say whether there is a pattern with a name. -/
  | contains (name : String)
  deriving DecidableEq, Repr

/-- What a request that succeeds is answered with. -/
inductive Reply (μ : Type) where
  | pattern (matcher : μ)
  | text (text : List Char)
  | flag (value : Bool)
  deriving DecidableEq, Repr

/-- Performs a request. -/
def perform (compile : Compiler μ) : Request → Session μ (Reply μ)
  | .define name template => do
    return .pattern (← NamedPatterns.define compile name template)
  | .expand template => do
    let table ← MonadState.get
    return .pattern (← MonadExcept.ofExcept (table.expand compile template))
  | .interpolate template => do
    let table ← MonadState.get
    return .text (← MonadExcept.ofExcept (table.resolve template))
  | .source name => do
    let table ← MonadState.get
    return .text (← MonadExcept.ofExcept (table.source name))
  | .get name => do
    let table ← MonadState.get
    return .pattern (← MonadExcept.ofExcept (table.get name))
  | .contains name => do
    let table ← MonadState.get
    return .flag (table.contains name)

/-- The result of a request on a table, and the table behind it. -/
def answer (compile : Compiler μ) (table : NamedPatterns μ) (request : Request) :
    Except PatternError (Reply μ) × NamedPatterns μ :=
  (perform compile request).run.run table

/-- The results of several requests, one after the other, and the table behind them all. -/
def answerAll (compile : Compiler μ) (table : NamedPatterns μ) :
    List Request → List (Except PatternError (Reply μ)) × NamedPatterns μ
  | [] => ([], table)
  | request :: rest =>
    let (result, next) := table.answer compile request
    let (results, last) := next.answerAll compile rest
    (result :: results, last)

end NamedPatterns

end ScriptForms

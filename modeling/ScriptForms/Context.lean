import ScriptForms.Program

/-!
# Lowering in a context

A caller may hand over the context in which a node is lowered. A context counts the levels above the
node; anything else in its place is refused, by the name of its kind.
-/

namespace ScriptForms

/-- What a caller hands over as context. -/
inductive Context where
  /-- A context at the given depth. -/
  | level (depth : Nat)
  /-- A value that is no context. -/
  | foreign (value : Json)

/-- A value of the given kind stands in the place of a context. -/
structure ContextError where
  kind : String
  deriving DecidableEq, Repr

/-- The wording of the error. -/
def ContextError.message (e : ContextError) : String :=
  "Traversal context has unexpected shape: " ++ e.kind

namespace Context

/-- The context at the root of a document. -/
def root : Context :=
  level 0

/-- Refuses what is no context. -/
def check : Context → Except ContextError Unit
  | level _ => .ok ()
  | foreign value => .error ⟨value.kindName⟩

/-- What a node lowers to in a context. -/
def lower (context : Context) (node : Node) : Except ContextError Lowered := do
  context.check
  return node.lower

end Context

end ScriptForms

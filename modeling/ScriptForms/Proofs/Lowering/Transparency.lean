import ScriptForms.Context
import ScriptForms.Proofs.Lowering.Equations

/-!
# Blocks are transparent and mappings concatenate

A block puts its statements in the place where it stands, so its borders do not matter: in another
block it may be dissolved, and in a list as well, unless it holds an arrow, which only a block
drops. Likewise two mappings that stand side by side may be written as one, as long as the first is
made of whole entries without `let`; the body of a `let` form would take in the second.

Both come from what blocks and lists are lowered to. A run of children has its statements in a block
and its items in a list, and another run with the same ones may take its place (`lower_forms_congr`,
`lower_list_congr`). What is left is a fact about the run itself.
-/

namespace ScriptForms

namespace Lowering

open Node

/-- What some children of a block contribute to it: nothing for an arrow, and for everything else
what it lowers to. -/
def statements (nodes : List Node) : List Node :=
  (nodes.filter (·.lower != .single (.sym "=>"))).flatMap (·.lower.nodes)

theorem statements_append (nodes more : List Node) :
    statements (nodes ++ more) = statements nodes ++ statements more := by
  rw [statements, List.filter_append, List.flatMap_append]
  rfl

/-- Children of a block may be replaced by others with the same statements. -/
theorem lower_forms_congr {inner other : List Node} (h : statements inner = statements other)
    (before after : List Node) :
    (Node.seq .forms (before ++ inner ++ after)).lower =
      (Node.seq .forms (before ++ other ++ after)).lower := by
  have hstatements : statements (before ++ inner ++ after) =
      statements (before ++ other ++ after) := by
    rw [statements_append, statements_append, h, ← statements_append, ← statements_append]
  rw [lower_forms, lower_forms]
  exact congrArg Lowered.splice hstatements

/-- Children of a list may be replaced by others that lower to the same nodes. -/
theorem lower_list_congr {inner other : List Node}
    (h : inner.flatMap (·.lower.nodes) = other.flatMap (·.lower.nodes)) (before after : List Node) :
    (Node.list (before ++ inner ++ after)).lower =
      (Node.list (before ++ other ++ after)).lower := by
  rw [lower_list, lower_list, List.flatMap_append, List.flatMap_append, h, ← List.flatMap_append,
    ← List.flatMap_append]

/-- Only an arrow lowers to an arrow in its place. -/
theorem eq_arrow_of_lower {node : Node} (h : node.lower = .single (.sym "=>")) :
    node = .sym "=>" := by
  cases node with
  | seq kind items => cases kind <;> cases h
  | group items => cases h
  | _ => exact Lowered.single.inj h

/-- Without arrows, children have the same statements in a block as items in a list. -/
theorem statements_of_no_arrow {nodes : List Node} (h : ∀ node ∈ nodes, node ≠ .sym "=>") :
    statements nodes = nodes.flatMap (·.lower.nodes) := by
  have hkept : ∀ node ∈ nodes, (node.lower != .single (.sym "=>")) = true :=
    fun node hnode ↦ bne_iff_ne.2 fun harrow ↦ h node hnode (eq_arrow_of_lower harrow)
  rw [statements, List.filter_eq_self.2 hkept]

/-- A block has the statements of its children, wherever it stands. -/
theorem nodes_lower_forms (nodes : List Node) :
    (Node.seq .forms nodes).lower.nodes = statements nodes := by
  rw [lower_forms]
  rfl

end Lowering

/-- A context looks at a node only by lowering it. -/
theorem Context.lower_congr {node other : Node} (h : node.lower = other.lower) (context : Context) :
    context.lower node = context.lower other := by
  rw [Context.lower, Context.lower, h]

namespace Lowering

open Node

/-- **Blocks are transparent and mappings concatenate.** In every context, a block in a block may be
dissolved, and so may a block without arrows in a list. Whole entries without `let` in front of a
mapping are lowered apart from it; so in a block or in a list, two mappings side by side, the first
of such entries, lower to the same as the one that joins them. -/
theorem lower_dissolves_and_joins (context : Context) (before after : List Node) :
    (∀ inner : List Node, context.lower (.seq .forms (before ++ [Node.seq .forms inner] ++ after)) =
      context.lower (.seq .forms (before ++ inner ++ after))) ∧
    (∀ inner : List Node, (∀ child ∈ inner, child ≠ .sym "=>") →
      context.lower (.list (before ++ [Node.seq .forms inner] ++ after)) =
        context.lower (.list (before ++ inner ++ after))) ∧
    ∀ first second : List Node, first.length % 2 = 0 →
      (∀ entry ∈ entriesOf first, entry.isLet = false) →
      mappingForms (first ++ second) = mappingForms first ++ mappingForms second ∧
      context.lower (.seq .forms (before ++ [Node.seq .pairs first, .seq .pairs second] ++ after)) =
        context.lower (.seq .forms (before ++ [Node.seq .pairs (first ++ second)] ++ after)) ∧
      context.lower (.list (before ++ [Node.seq .pairs first, .seq .pairs second] ++ after)) =
        context.lower (.list (before ++ [Node.seq .pairs (first ++ second)] ++ after)) := by
  refine ⟨fun inner ↦ ?_, fun inner harrow ↦ ?_, fun first second heven hlets ↦ ?_⟩
  · refine Context.lower_congr (lower_forms_congr ?_ before after) context
    show (Node.seq .forms inner).lower.nodes ++ [] = statements inner
    rw [List.append_nil, nodes_lower_forms]
  · refine Context.lower_congr (lower_list_congr ?_ before after) context
    rw [List.flatMap_singleton, nodes_lower_forms, statements_of_no_arrow harrow]
  · have hforms := mappingForms_append heven hlets second
    have hjoined : mappingForms first ++ (mappingForms second ++ []) =
        mappingForms (first ++ second) ++ [] := by
      rw [hforms, List.append_nil, List.append_nil]
    refine ⟨hforms, Context.lower_congr (lower_forms_congr ?_ before after) context,
      Context.lower_congr (lower_list_congr ?_ before after) context⟩
    · exact hjoined
    · exact hjoined

/-- A block in a list that holds a block with an arrow and a mapping that gives one, and a mapping
with groups in front of one with a `let` entry and a key without a value. -/
theorem lower_dissolves_and_joins_nested :
    let inner : List Node :=
      [.sym "a", .seq .forms [.sym "=>", .nil], .seq .pairs [.sym "=>", .sym "=>"],
        .group [.sym "b"]]
    let first : List Node := [.sym "f", .sym "x", .group [.sym "g", .sym "y"],
      .seq .forms [.sym "z", .nil]]
    let second : List Node :=
      [.sym "let", .group [.sym "z", .seq .pairs [.sym "k", .nil]], .sym "h"]
    let before : List Node := [.nil]
    let after : List Node := [.sym "=>"]
    (∀ child ∈ inner, child ≠ .sym "=>") ∧ first.length % 2 = 0 ∧
      (∀ entry ∈ entriesOf first, entry.isLet = false) ∧
      Context.root.lower (.seq .forms (before ++ [Node.seq .forms inner] ++ after)) =
        Context.root.lower (.seq .forms (before ++ inner ++ after)) ∧
      Context.root.lower (.list (before ++ [Node.seq .forms inner] ++ after)) =
        Context.root.lower (.list (before ++ inner ++ after)) ∧
      mappingForms (first ++ second) = mappingForms first ++ mappingForms second ∧
      Context.root.lower (.list (before ++ [Node.seq .pairs first, .seq .pairs second] ++ after)) =
        Context.root.lower (.list (before ++ [Node.seq .pairs (first ++ second)] ++ after)) := by
  intro inner first second before after
  have harrow : ∀ child ∈ inner, child ≠ .sym "=>" := by decide
  have heven : first.length % 2 = 0 := by decide
  have hlets : ∀ entry ∈ entriesOf first, entry.isLet = false := by decide
  obtain ⟨hblock, hlist, hjoin⟩ := lower_dissolves_and_joins .root before after
  obtain ⟨hforms, -, hlower⟩ := hjoin first second heven hlets
  exact ⟨harrow, heven, hlets, hblock inner, hlist inner harrow, hforms, hlower⟩

/-- A block drops its arrows, and a list keeps those that stand in it directly. -/
example :
    (Node.list [.seq .forms [.sym "=>", .nil]]).lower = .single (.list [.nil]) ∧
      (Node.list [.sym "=>", .nil]).lower = .single (.list [.sym "=>", .nil]) := by
  decide

end Lowering

end ScriptForms

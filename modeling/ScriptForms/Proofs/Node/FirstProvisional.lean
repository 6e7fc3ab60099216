import Mathlib.Data.List.Basic
import ScriptForms.Node.Printer
import ScriptForms.Proofs.Except
import ScriptForms.Proofs.Node.Subnodes

/-!
# What is printed, and what is rejected

Printing does not come to every part of a tree: the last item of a map that has no partner is left
out, and nothing below a provisional node is looked at. `Node.rendered` lists the nodes that it
comes to, each before what is written inside it (`rendered_eq`). A tree without groups is printed if
and only if none of these is provisional, and otherwise the first of them is reported.

One step of printing is `failure?_print_eq`: a node is rejected for its own kind, or else for the
first of the children that are written. The list of all nodes that printing comes to unfolds in the
same steps, so the two are tied together by one induction (`failure?_print`).
-/

namespace ScriptForms

namespace Node

/-- The items of a map that stand in a pair: all of them but the last one of an odd number. -/
def paired (items : List Node) : List Node :=
  items.take (items.length / 2 * 2)

/-- The children that are written inside the text of a node. -/
def written : Node → List Node
  | seq .list items => items
  | seq .vector items => items
  | seq .map items => paired items
  | _ => []

mutual

/-- The nodes that printing comes to, each before what is written inside it. -/
def rendered : Node → List Node
  | seq .list items => seq .list items :: renderedItems items
  | seq .vector items => seq .vector items :: renderedItems items
  | seq .map items => seq .map items :: renderedPairs items
  | node => [node]

/-- The nodes that printing comes to in several nodes. -/
def renderedItems : List Node → List Node
  | [] => []
  | item :: rest => rendered item ++ renderedItems rest

/-- The nodes that printing comes to in the pairs of a map. -/
def renderedPairs : List Node → List Node
  | key :: value :: rest => rendered key ++ (rendered value ++ renderedPairs rest)
  | _ => []

end

/-! ### The nodes that printing comes to -/

theorem paired_singleton (key : Node) : paired [key] = [] := by
  simp [paired]

theorem paired_cons_cons (key value : Node) (rest : List Node) :
    paired (key :: value :: rest) = key :: value :: paired rest := by
  have hlength : (rest.length + 1 + 1) / 2 * 2 = rest.length / 2 * 2 + 1 + 1 := by omega
  rw [paired, List.length_cons, List.length_cons, hlength]
  rfl

theorem renderedItems_eq_flatMap (items : List Node) :
    renderedItems items = items.flatMap rendered := by
  induction items with
  | nil => rfl
  | cons item rest ih => rw [renderedItems, ih, List.flatMap_cons]

/-- What is printed of pairs is what is printed of the items that have a partner. -/
theorem renderedPairs_eq_flatMap :
    ∀ items : List Node, renderedPairs items = (paired items).flatMap rendered
  | [] => rfl
  | [key] => by rw [paired_singleton]; rfl
  | key :: value :: rest => by
    rw [renderedPairs, renderedPairs_eq_flatMap rest, paired_cons_cons, List.flatMap_cons,
      List.flatMap_cons]

/-- Printing comes to a node, and then to the children that are written, from left to right. -/
theorem rendered_eq (node : Node) : node.rendered = node :: node.written.flatMap rendered := by
  cases node with
  | seq kind items =>
    cases kind with
    | list => rw [rendered, renderedItems_eq_flatMap, written]
    | vector => rw [rendered, renderedItems_eq_flatMap, written]
    | map => rw [rendered, renderedPairs_eq_flatMap, written]
    | pairs => rfl
    | forms => rfl
  | _ => rfl

theorem mem_children_of_mem_written {child node : Node} (h : child ∈ node.written) :
    child ∈ node.children := by
  cases node with
  | seq kind items =>
    cases kind with
    | list => exact h
    | vector => exact h
    | map => exact List.mem_of_mem_take h
    | pairs => cases h
    | forms => cases h
  | _ => cases h

/-- What printing comes to lies in the tree. -/
theorem mem_subnodes_of_mem_rendered {inner node : Node} (h : inner ∈ node.rendered) :
    inner ∈ node.subnodes := by
  induction node using inductionOn with
  | step node ih =>
    rw [rendered_eq] at h
    rcases List.mem_cons.1 h with rfl | hbelow
    · exact inner.self_mem_subnodes
    · obtain ⟨child, hchild, hinner⟩ := List.mem_flatMap.1 hbelow
      have hchild := mem_children_of_mem_written hchild
      exact mem_subnodes_of_child hchild (ih child hchild hinner)

/-! ### Failures -/

/-- Several nodes fail to be printed with the first failure among them. -/
theorem failure?_printItems (items : List Node) :
    failure? (printItems items) = items.findSome? fun item ↦ failure? item.print := by
  induction items with
  | nil => rfl
  | cons item rest ih =>
    rw [printItems, List.findSome?_cons, ← ih]
    cases item.print with
    | error cause => rfl
    | ok text => cases printItems rest <;> rfl

/-- Pairs fail with the first of their items that fails. -/
theorem failure?_printPairs : ∀ items : List Node,
    failure? (printPairs items) = (paired items).findSome? fun item ↦ failure? item.print
  | [] => rfl
  | [key] => by rw [paired_singleton]; rfl
  | key :: value :: rest => by
    rw [printPairs, paired_cons_cons, List.findSome?_cons, List.findSome?_cons,
      ← failure?_printPairs rest]
    cases key.print with
    | error cause => rfl
    | ok keyText =>
      cases value.print with
      | error cause => rfl
      | ok valueText => cases printPairs rest <;> rfl

/-- The error for a node that has no text, whatever is inside it. -/
def rejection? (node : Node) : Option NodeError :=
  if node.isProvisional || node.isGroup then some (.unprintable node) else none

/-- A node is rejected itself, or else for the first child that is written and cannot be printed. -/
theorem failure?_print_eq (node : Node) :
    failure? node.print =
      (node.rejection?).or (node.written.findSome? fun child ↦ failure? child.print) := by
  cases node with
  | seq kind items =>
    cases kind with
    | list =>
      rw [print, failure?_map, failure?_printItems]
      rfl
    | vector =>
      rw [print, failure?_map, failure?_printItems]
      rfl
    | map =>
      rw [print, failure?_map, failure?_printPairs]
      rfl
    | pairs => rfl
    | forms => rfl
  | _ => rfl

/-- The first failure among several nodes is the first rejection among all nodes that printing comes
to, if that is so for each of them on its own. -/
theorem findSome?_failure?_print {nodes : List Node}
    (h : ∀ node ∈ nodes, failure? node.print = node.rendered.findSome? rejection?) :
    (nodes.findSome? fun node ↦ failure? node.print) =
      (nodes.flatMap rendered).findSome? rejection? := by
  induction nodes with
  | nil => rfl
  | cons node rest ih =>
    obtain ⟨hnode, hrest⟩ := List.forall_mem_cons.1 h
    rw [List.findSome?_cons, List.flatMap_cons, List.findSome?_append, hnode, ih hrest]
    cases node.rendered.findSome? rejection? <;> rfl

/-- Printing fails with the first rejection among the nodes that it comes to. -/
theorem failure?_print (node : Node) : failure? node.print =
    node.rendered.findSome? rejection? := by
  induction node using inductionOn with
  | step node ih =>
    have hwritten := findSome?_failure?_print fun child (hchild : child ∈ node.written) ↦
      ih child (mem_children_of_mem_written hchild)
    rw [failure?_print_eq, rendered_eq, List.findSome?_cons, hwritten]
    cases node.rejection? <;> rfl

/-! ### Trees without groups -/

/-- Among single nodes the first one that is rejected is the first provisional one. -/
theorem findSome?_rejection? {nodes : List Node} (h : ∀ node ∈ nodes, node.isGroup = false) :
    nodes.findSome? rejection? = (nodes.find? isProvisional).map .unprintable := by
  induction nodes with
  | nil => rfl
  | cons node rest ih =>
    obtain ⟨hnode, hrest⟩ := List.forall_mem_cons.1 h
    rw [List.findSome?_cons, List.find?_cons, rejection?, hnode, Bool.or_false, ih hrest]
    cases node.isProvisional <;> rfl

theorem message_unprintable {node : Node} (h : node.isProvisional = true) :
    (NodeError.unprintable node).message = "Unknown AST node type (provisional): " ++
      node.display := by
  have hlead : "Unknown AST node type (" ++ "provisional" ++ "): " =
      "Unknown AST node type (provisional): " := by
    decide +kernel
  show "Unknown AST node type (" ++ (if node.isProvisional then "provisional" else "unknown") ++
    "): " ++
    node.display = _
  rw [if_pos h, hlead]

/-- **Printing rejects exactly the provisional nodes that it would have to write.** A tree without
groups is rejected if and only if printing comes to a mapping or a block, and it is printed
otherwise. The error is the one for the first of these in the order of printing, which is called
provisional. -/
theorem print_rejects_first_provisional {node : Node}
    (h : ∀ inner ∈ node.subnodes, inner.isGroup = false) :
    ((∃ cause, node.print = .error cause) ↔ ∃ inner ∈ node.rendered, inner.isProvisional = true) ∧
    ((∃ text, node.print = .ok text) ↔ ∀ inner ∈ node.rendered, inner.isProvisional = false) ∧
    ∀ cause, node.print = .error cause ↔
      ∃ before inner after, node.rendered = before ++ inner :: after ∧
        (∀ earlier ∈ before, earlier.isProvisional = false) ∧ inner.isProvisional = true ∧
        cause = .unprintable inner ∧
        cause.message = "Unknown AST node type (provisional): " ++ inner.display := by
  have hfailure : failure? node.print = (node.rendered.find? isProvisional).map .unprintable := by
    rw [failure?_print, findSome?_rejection? fun inner hinner ↦
      h inner (mem_subnodes_of_mem_rendered hinner)]
  have hok : (∃ text, node.print = .ok text) ↔
      ∀ inner ∈ node.rendered, inner.isProvisional = false := by
    rw [← failure?_eq_none_iff, hfailure, Option.map_eq_none_iff, List.find?_eq_none]
    simp only [Bool.not_eq_true]
  refine ⟨?_, hok, fun cause ↦ ?_⟩
  · rw [exists_eq_error_iff, hok]
    simp
  · rw [← failure?_eq_some_iff, hfailure, Option.map_eq_some_iff]
    constructor
    · rintro ⟨inner, hfirst, rfl⟩
      obtain ⟨hprovisional, before, after, hrendered, hbefore⟩ :=
        List.find?_eq_some_iff_append.1 hfirst
      exact ⟨before, inner, after, hrendered, by simpa using hbefore, hprovisional, rfl,
        message_unprintable hprovisional⟩
    · rintro ⟨before, inner, after, hrendered, hbefore, hprovisional, rfl, -⟩
      have hfirst : node.rendered.find? isProvisional = some inner :=
        List.find?_eq_some_iff_append.2 ⟨hprovisional, before, after, hrendered,
          by simpa using hbefore⟩
      exact ⟨inner, hfirst, rfl⟩

/-- A block in a map is reported ahead of a mapping behind it, and what is inside the block or
without a partner in the map does not count. -/
theorem print_rejects_first_provisional_in_map :
    let block : Node := .seq .forms [.seq .pairs []]
    let map : Node := .seq .map [.vector [.sym "k"], .vector [.nil, block], .seq .pairs []]
    let node : Node := .list [.sym "f", map, .seq .pairs [.nil]]
    (∀ inner ∈ node.subnodes, inner.isGroup = false) ∧
      node.print = .error (.unprintable block) := by
  intro block map node
  have hsingle : ∀ inner ∈ node.subnodes, inner.isGroup = false := by decide
  refine ⟨hsingle, ((print_rejects_first_provisional hsingle).2.2 _).2 ?_⟩
  exact ⟨[node, .sym "f", map, .vector [.sym "k"], .sym "k", .vector [.nil, block], .nil], block,
    [.seq .pairs [.nil]], rfl, by decide, rfl, rfl, message_unprintable rfl⟩

end Node

end ScriptForms

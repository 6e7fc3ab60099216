import ScriptForms.Node.Printer
import ScriptForms.Proofs.Node.Subnodes

/-!
# Canonical nodes

A canonical node holds nothing that only a parser writes: no mapping, no block and no group, at any
depth. These are the nodes that finished programs are made of, and each of them has a text
(`exists_print_eq_ok`).
-/

namespace ScriptForms

namespace Node

/-- No provisional node and no group occurs in the node, at any depth. -/
def IsCanonical (node : Node) : Prop :=
  ∀ inner ∈ node.subnodes, inner.isProvisional = false ∧ inner.isGroup = false

instance (node : Node) : Decidable node.IsCanonical :=
  inferInstanceAs (Decidable (∀ inner ∈ node.subnodes, _ ∧ _))

theorem IsCanonical.isProvisional {node : Node} (h : node.IsCanonical) :
    node.isProvisional = false :=
  (h node node.self_mem_subnodes).1

theorem IsCanonical.isGroup {node : Node} (h : node.IsCanonical) : node.isGroup = false :=
  (h node node.self_mem_subnodes).2

theorem IsCanonical.child {child node : Node} (h : node.IsCanonical)
    (hchild : child ∈ node.children) :
    child.IsCanonical :=
  fun inner hinner ↦ h inner (mem_subnodes_of_child hchild hinner)

/-- A canonical node is a single one. -/
theorem IsCanonical.members {node : Node} (h : node.IsCanonical) : node.members = [node] :=
  members_of_not_group h.isGroup

/-- A node is canonical if its own shape and its children are. -/
theorem isCanonical_of_children {node : Node} (hprovisional : node.isProvisional = false)
    (hgroup : node.isGroup = false) (hchildren : ∀ child ∈ node.children, child.IsCanonical) :
    node.IsCanonical := by
  intro inner hinner
  rcases mem_subnodes_iff.1 hinner with rfl | ⟨child, hchild, hmem⟩
  · exact ⟨hprovisional, hgroup⟩
  · exact hchildren child hchild inner hmem

theorem isCanonical_text (kind : TextKind) (content : String) : (text kind content).IsCanonical :=
  isCanonical_of_children rfl rfl (List.forall_mem_nil _)

theorem isCanonical_list {items : List Node} (h : ∀ item ∈ items, item.IsCanonical) :
    (list items).IsCanonical :=
  isCanonical_of_children rfl rfl h

theorem isCanonical_vector {items : List Node} (h : ∀ item ∈ items, item.IsCanonical) :
    (vector items).IsCanonical :=
  isCanonical_of_children rfl rfl h

/-! ### Canonical nodes have a text -/

/-- Items that can be printed can be printed one after the other. -/
theorem exists_printItems_eq_ok {items : List Node}
    (h : ∀ item ∈ items, ∃ text, item.print = .ok text) :
    ∃ texts, printItems items = .ok texts := by
  induction items with
  | nil => exact ⟨[], rfl⟩
  | cons item rest ih =>
    obtain ⟨first, hfirst⟩ := h item List.mem_cons_self
    obtain ⟨texts, htexts⟩ := ih fun item hitem ↦ h item (List.mem_cons_of_mem _ hitem)
    refine ⟨first :: texts, ?_⟩
    rw [printItems, hfirst, htexts]
    rfl

/-- They can also be printed in pairs, where the last of an odd number is left out. -/
theorem exists_printPairs_eq_ok :
    ∀ {items : List Node}, (∀ item ∈ items, ∃ text, item.print = .ok text) →
      ∃ texts, printPairs items = .ok texts
  | [], _ => ⟨[], rfl⟩
  | [_], _ => ⟨[], rfl⟩
  | key :: value :: rest, h => by
    obtain ⟨keyText, hkey⟩ := h key List.mem_cons_self
    obtain ⟨valueText, hvalue⟩ := h value (List.mem_cons_of_mem _ List.mem_cons_self)
    obtain ⟨texts, htexts⟩ := exists_printPairs_eq_ok fun item (hitem : item ∈ rest) ↦
      h item (List.mem_cons_of_mem _ (List.mem_cons_of_mem _ hitem))
    refine ⟨(keyText ++ " " ++ valueText) :: texts, ?_⟩
    rw [printPairs, hkey, hvalue, htexts]
    rfl

/-- Printing a canonical node never fails. -/
theorem exists_print_eq_ok {node : Node} (h : node.IsCanonical) :
    ∃ text, node.print = .ok text := by
  induction node using inductionOn with
  | step node ih =>
    cases node with
    | empty => exact ⟨_, rfl⟩
    | nil => exact ⟨_, rfl⟩
    | bool value => exact ⟨_, rfl⟩
    | text kind content => exact ⟨_, rfl⟩
    | group items => cases h.isGroup
    | seq kind items =>
      have hitems : ∀ item ∈ items, ∃ text, item.print = .ok text :=
        fun item hitem ↦ ih item hitem (h.child hitem)
      cases kind with
      | list =>
        obtain ⟨texts, htexts⟩ := exists_printItems_eq_ok hitems
        exact ⟨_, by rw [print, htexts]; rfl⟩
      | vector =>
        obtain ⟨texts, htexts⟩ := exists_printItems_eq_ok hitems
        exact ⟨_, by rw [print, htexts]; rfl⟩
      | map =>
        obtain ⟨texts, htexts⟩ := exists_printPairs_eq_ok hitems
        exact ⟨_, by rw [print, htexts]; rfl⟩
      | pairs => cases h.isProvisional
      | forms => cases h.isProvisional

end Node

end ScriptForms

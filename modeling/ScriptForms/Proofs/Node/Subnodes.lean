import ScriptForms.Node.Error
import ScriptForms.Value

/-!
# The nodes inside a node

A node has children, the items of a sequence or the members of a group, and `subnodes` lists
everything below it at every depth, the node itself first. Conditions on whole trees are stated over
this list, so that they pass to each part of a tree for free (`subnodes_subset`) and can be
evaluated.

The recursor that comes with `Node` treats a node and a list of nodes side by side. `inductionOn`
hands over the statement for all children at once, which is the form in which the functions on trees
need it.
-/

namespace ScriptForms

namespace Node

/-! ### Shapes -/

/-- Whether several nodes stand in the place of one. -/
def isGroup : Node → Bool
  | group _ => true
  | _ => false

/-- Whether the node is a mapping as a parser writes it. -/
def isPairs : Node → Bool
  | seq .pairs _ => true
  | _ => false

theorem isSymbol_iff {name : String} {node : Node} :
    node.isSymbol name = true ↔ node = .sym name := by
  cases node with
  | text kind content => cases kind <;> simp [isSymbol]
  | _ => simp [isSymbol]

theorem isSymbol_eq_false {name : String} {node : Node} (h : node ≠ .sym name) :
    node.isSymbol name = false :=
  Bool.eq_false_iff.2 (mt isSymbol_iff.1 h)

/-- The nodes that a node holds directly. -/
def children : Node → List Node
  | seq _ items => items
  | group items => items
  | _ => []

/-- Children are smaller, which is what all recursion on nodes rests on. -/
theorem sizeOf_lt_of_mem_children {child node : Node} (h : child ∈ node.children) :
    sizeOf child < sizeOf node := by
  cases node with
  | seq kind items =>
    have hlt := List.sizeOf_lt_of_mem (show child ∈ items from h)
    simp only [seq.sizeOf_spec]
    omega
  | group items =>
    have hlt := List.sizeOf_lt_of_mem (show child ∈ items from h)
    simp only [group.sizeOf_spec]
    omega
  | _ => exact absurd h List.not_mem_nil

/-- Induction on nodes, with the statement at hand for all children. -/
@[elab_as_elim]
theorem inductionOn {motive : Node → Prop} (node : Node)
    (step : ∀ node, (∀ child ∈ node.children, motive child) → motive node) : motive node :=
  step node fun child hchild ↦
    have := sizeOf_lt_of_mem_children hchild
    inductionOn child step
termination_by sizeOf node

/-! ### Subnodes -/

mutual

/-- The nodes of a tree at every depth, each before what it holds. -/
def subnodes : Node → List Node
  | seq kind items => seq kind items :: subnodesOf items
  | group items => group items :: subnodesOf items
  | node => [node]

/-- The nodes of several trees. -/
def subnodesOf : List Node → List Node
  | [] => []
  | node :: rest => subnodes node ++ subnodesOf rest

end

theorem subnodesOf_eq_flatMap (nodes : List Node) : subnodesOf nodes = nodes.flatMap subnodes := by
  induction nodes with
  | nil => rfl
  | cons node rest ih => rw [subnodesOf, ih, List.flatMap_cons]

/-- A tree is its root, followed by the trees of the children. -/
theorem subnodes_eq (node : Node) : node.subnodes = node :: node.children.flatMap subnodes := by
  cases node with
  | seq kind items => rw [subnodes, subnodesOf_eq_flatMap, children]
  | group items => rw [subnodes, subnodesOf_eq_flatMap, children]
  | _ => rfl

/-- A subnode is the node itself or a subnode of a child. -/
theorem mem_subnodes_iff {inner node : Node} :
    inner ∈ node.subnodes ↔ inner = node ∨ ∃ child ∈ node.children, inner ∈ child.subnodes := by
  rw [subnodes_eq, List.mem_cons, List.mem_flatMap]

theorem self_mem_subnodes (node : Node) : node ∈ node.subnodes :=
  mem_subnodes_iff.2 (.inl rfl)

theorem mem_subnodes_of_child {inner child node : Node} (hchild : child ∈ node.children)
    (hinner : inner ∈ child.subnodes) : inner ∈ node.subnodes :=
  mem_subnodes_iff.2 (.inr ⟨child, hchild, hinner⟩)

/-- Lying below is transitive. -/
theorem subnodes_subset {middle node : Node} (hmiddle : middle ∈ node.subnodes) :
    middle.subnodes ⊆ node.subnodes := by
  induction node using inductionOn with
  | step node ih =>
    rcases mem_subnodes_iff.1 hmiddle with rfl | ⟨child, hchild, hmem⟩
    · exact List.Subset.refl _
    · exact fun inner hinner ↦ mem_subnodes_of_child hchild (ih child hchild hmem hinner)

/-- Induction on nodes, with the statement at hand for everything below. -/
@[elab_as_elim]
theorem strongInductionOn {motive : Node → Prop} (node : Node)
    (step : ∀ node, (∀ child ∈ node.children, ∀ inner ∈ child.subnodes, motive inner) →
      motive node) :
    motive node := by
  have hall : ∀ inner ∈ node.subnodes, motive inner := by
    induction node using inductionOn with
    | step node ih =>
      intro inner hinner
      rcases mem_subnodes_iff.1 hinner with rfl | ⟨child, hchild, hmem⟩
      · exact step inner ih
      · exact ih child hchild inner hmem
  exact hall node node.self_mem_subnodes

/-- Everything below a node but the node itself is a child of something below it. -/
theorem exists_parent_of_mem_subnodes {inner node : Node} (h : inner ∈ node.subnodes) :
    inner = node ∨ ∃ parent ∈ node.subnodes, inner ∈ parent.children := by
  induction node using inductionOn with
  | step node ih =>
    rcases mem_subnodes_iff.1 h with rfl | ⟨child, hchild, hmem⟩
    · exact .inl rfl
    · rcases ih child hchild hmem with rfl | ⟨parent, hparent, hinner⟩
      · exact .inr ⟨node, node.self_mem_subnodes, hchild⟩
      · exact .inr ⟨parent, mem_subnodes_of_child hchild hparent, hinner⟩

/-! ### Members -/

theorem membersOf_eq_flatMap (nodes : List Node) : membersOf nodes = nodes.flatMap members := by
  induction nodes with
  | nil => rfl
  | cons node rest ih => rw [membersOf, ih, List.flatMap_cons]

theorem members_of_not_group {node : Node} (h : node.isGroup = false) : node.members = [node] := by
  cases node with
  | group items => cases h
  | _ => rfl

theorem members_group (items : List Node) : (group items).members = items.flatMap members := by
  rw [members, membersOf_eq_flatMap]

/-- Members are single nodes. -/
theorem isGroup_of_mem_members {inner node : Node} (h : inner ∈ node.members) :
    inner.isGroup = false := by
  induction node using inductionOn with
  | step node ih =>
    cases hnode : node.isGroup with
    | false =>
      rw [members_of_not_group hnode, List.mem_singleton] at h
      rw [h, hnode]
    | true =>
      cases node with
      | group items =>
        rw [members_group] at h
        obtain ⟨item, hitem, hmem⟩ := List.mem_flatMap.1 h
        exact ih item hitem hmem
      | _ => cases hnode

/-- Members lie below the node. -/
theorem mem_subnodes_of_mem_members {inner node : Node} (h : inner ∈ node.members) :
    inner ∈ node.subnodes := by
  induction node using inductionOn with
  | step node ih =>
    cases node with
    | group items =>
      rw [members_group] at h
      obtain ⟨item, hitem, hmem⟩ := List.mem_flatMap.1 h
      exact mem_subnodes_of_child hitem (ih item hitem hmem)
    | _ => exact mem_subnodes_iff.2 (.inl (List.mem_singleton.1 h))

end Node

end ScriptForms

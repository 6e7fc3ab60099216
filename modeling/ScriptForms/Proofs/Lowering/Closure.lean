import ScriptForms.Proofs.Lowering.Equations

/-!
# Properties that lowering passes on

Whatever lowering builds, it builds in three ways: it puts lowered nodes into a list, it writes a
text, or it collects the terms of `let` entries in a vector. A property of single nodes is `Closed`
if the first two keep it. Such a property holds of all forms of a mapping once it holds of what the
parts of its keys and values lower to, and of its binding vectors (`Closed.of_mem_pairForms`).
Nothing else about the mapping matters.
-/

namespace ScriptForms

namespace Node

/-- The nodes on one side of an entry, each of which is lowered by itself: the items of a group, or
the node. -/
def parts : Node → List Node
  | group items => items
  | node => [node]

theorem parts_of_not_group {node : Node} (h : node.isGroup = false) : node.parts = [node] := by
  cases node with
  | group items => cases h
  | _ => rfl

theorem mem_subnodes_of_mem_parts {part side : Node} (h : part ∈ side.parts) :
    part ∈ side.subnodes := by
  cases side with
  | group items => exact mem_subnodes_of_child h part.self_mem_subnodes
  | _ => exact mem_subnodes_iff.2 (.inl (List.mem_singleton.1 h))

/-- A group that holds single nodes has single parts, and so has a single node. -/
theorem isGroup_of_mem_parts {part side : Node}
    (h : side.isGroup = true → ∀ child ∈ side.children, child.isGroup = false)
    (hpart : part ∈ side.parts) : part.isGroup = false := by
  cases hside : side.isGroup with
  | false =>
    rw [parts_of_not_group hside, List.mem_singleton] at hpart
    rw [hpart, hside]
  | true =>
    cases side with
    | group items => exact h rfl part hpart
    | _ => cases hside

end Node

namespace Lowering

open Node

/-- A side lowers to what its parts lower to, with groups inlined. -/
theorem sideNodes_eq (side : Node) :
    side.sideNodes = side.parts.flatMap fun part ↦ part.lower.nodes.flatMap Node.members := by
  cases hgroup : side.isGroup with
  | false => rw [sideNodes_of_not_group hgroup, parts_of_not_group hgroup, List.flatMap_singleton]
  | true =>
    cases side with
    | group items => rw [sideNodes_group, parts]
    | _ => cases hgroup

/-- A property of single nodes that passes to the texts and the lists that lowering writes. -/
structure Closed (P : Node → Prop) : Prop where
  isGroup : ∀ {node}, P node → node.isGroup = false
  text : ∀ kind content, P (.text kind content)
  list : ∀ {items}, (∀ item ∈ items, P item) → P (.list items)

namespace Closed

variable {P : Node → Prop}

/-- Inlining groups changes nothing where there are none. -/
theorem flatMap_members (hP : Closed P) {nodes : List Node} (h : ∀ node ∈ nodes, P node) :
    nodes.flatMap Node.members = nodes := by
  have hsingle : ∀ node ∈ nodes, node.members = [node] :=
    fun node hnode ↦ members_of_not_group (hP.isGroup (h node hnode))
  rw [List.flatMap_congr hsingle, List.flatMap_singleton']

/-- What the lowered parts of a side have, the nodes of the side have. -/
theorem of_mem_sideNodes (hP : Closed P) {side : Node}
    (h : ∀ part ∈ side.parts, ∀ node ∈ part.lower.nodes, P node) :
    ∀ node ∈ side.sideNodes, P node := by
  intro node hnode
  rw [sideNodes_eq] at hnode
  obtain ⟨part, hpart, hmem⟩ := List.mem_flatMap.1 hnode
  rw [hP.flatMap_members (h part hpart)] at hmem
  exact h part hpart node hmem

/-- An entry becomes a call of its sides, or their nodes as they are. -/
theorem of_mem_forms (hP : Closed P) {entry : Entry}
    (h : ∀ side ∈ entry.sides, ∀ node ∈ side.sideNodes, P node) : ∀ node ∈ entry.forms, P node := by
  obtain ⟨key, value⟩ := entry
  simp only [Entry.forms]
  split
  · intro node hnode
    obtain ⟨side, hside, hmem⟩ := List.mem_flatMap.1 hnode
    exact h side (List.mem_cons_of_mem _ hside) node hmem
  · exact List.forall_mem_singleton.2 (hP.text _ _)
  · refine List.forall_mem_singleton.2 (hP.list fun node hnode ↦ ?_)
    obtain ⟨side, hside, hmem⟩ := List.mem_flatMap.1 hnode
    exact h side hside node hmem

/-- Closing a group of bindings wraps the body in one form, or leaves it alone. -/
theorem of_mem_close (hP : Closed P) {lets : Option (List Term)} {body : List Node}
    (hvector : ∀ terms, lets = some terms → P (.vector (bindings terms)))
    (hbody : ∀ node ∈ body, P node) : ∀ node ∈ close lets body, P node := by
  cases lets with
  | none => exact hbody
  | some terms =>
    have hitems : ∀ item ∈ .sym "let" :: .vector (bindings terms) :: body, P item :=
      List.forall_mem_cons.2 ⟨hP.text _ _, List.forall_mem_cons.2 ⟨hvector terms rfl, hbody⟩⟩
    exact List.forall_mem_singleton.2 (hP.list hitems)

/-- The induction along a mapping. The terms collected so far have a property `Q`, which they keep
when more are collected, and which is enough for the vector that is made of them in the end. -/
theorem of_mem_pairForms (hP : Closed P) {Q : List Term → Prop} (hnil : Q [])
    (happend : ∀ {terms more}, Q terms → Q more → Q (terms ++ more))
    (hvector : ∀ {terms}, Q terms → P (.vector (bindings terms)))
    {entries : List Entry} {lets : Option (List Term)} (hlets : Q (lets.getD []))
    (hforms : ∀ entry ∈ entries, entry.isLet = false → ∀ node ∈ entry.forms, P node)
    (hterms : ∀ entry ∈ entries, entry.isLet = true →
      Q ((entry.terms.filter (!·.isSymbol "let")).map Term.of)) :
    ∀ node ∈ pairForms lets (entries.map Pair.of), P node := by
  have hcollected : ∀ {lets : Option (List Term)}, Q (lets.getD []) →
      ∀ terms, lets = some terms → P (.vector (bindings terms)) := by
    rintro lets hlets terms rfl
    exact hvector hlets
  induction entries generalizing lets with
  | nil => exact hP.of_mem_close (hcollected hlets) (List.forall_mem_nil _)
  | cons entry rest ih =>
    obtain ⟨hentry, hrest⟩ := List.forall_mem_cons.1 hforms
    obtain ⟨hentry', hrest'⟩ := List.forall_mem_cons.1 hterms
    rw [List.map_cons]
    cases hlet : entry.isLet with
    | true =>
      rw [pairForms_cons_let hlet]
      exact ih (happend hlets (hentry' hlet)) hrest hrest'
    | false =>
      have hbody : ∀ node ∈ pairForms none (rest.map Pair.of), P node := ih hnil hrest hrest'
      rw [pairForms_cons_of_not_let hlet]
      exact hP.of_mem_close (hcollected hlets) (List.forall_mem_append.2 ⟨hentry hlet, hbody⟩)

end Closed

end Lowering

end ScriptForms

import ScriptForms.Context
import ScriptForms.Proofs.Lowering.Closure
import ScriptForms.Proofs.Node.Canonical

/-!
# One pass of lowering is enough

A node is lowered if lowering leaves it as it is, and it is no group and nothing provisional
(`IsLowered`). A list of lowered nodes is lowered, because each item is spliced back as itself, and
vectors and maps are lowered whatever they hold. So lowering passes the property on
(`closed_isLowered`), and every form that a tree lowers to has it: no list that the pass has built
still holds a block, a mapping or a group.

This asks little of the tree. A group is inlined only as one side of an entry, and only one level of
it is lowered, so groups have to stand there and to hold single nodes (`GroupsOnSides`). Vectors and
maps, and the names and values of `let` entries, which end up in a vector, may hold anything.
-/

namespace ScriptForms

namespace Node

/-- A single node in which groups stand only on the sides of entries, and hold single nodes there.
What a vector, a map or a `let` entry holds does not matter. -/
inductive GroupsOnSides : Node → Prop
  | empty : GroupsOnSides empty
  | nil : GroupsOnSides nil
  | bool (value : Bool) : GroupsOnSides (bool value)
  | text (kind : TextKind) (content : String) : GroupsOnSides (text kind content)
  | vector (items : List Node) : GroupsOnSides (seq .vector items)
  | map (items : List Node) : GroupsOnSides (seq .map items)
  | list {items : List Node} (h : ∀ item ∈ items, GroupsOnSides item) :
      GroupsOnSides (seq .list items)
  | forms {items : List Node} (h : ∀ item ∈ items, GroupsOnSides item) :
      GroupsOnSides (seq .forms items)
  | pairs {items : List Node}
      (h : ∀ entry ∈ entriesOf items, entry.isLet = false →
        ∀ side ∈ entry.sides, ∀ part ∈ side.parts, GroupsOnSides part) :
          GroupsOnSides (seq .pairs items)

/-- It is enough that groups stand only directly in mappings, all over the tree. -/
theorem GroupsOnSides.of_groups {tree : Node} (hsingle : tree.isGroup = false)
    (h : ∀ node ∈ tree.subnodes, ∀ child ∈ node.children, child.isGroup = true →
      node.isPairs = true) :
    tree.GroupsOnSides := by
  induction tree using strongInductionOn with
  | step tree ih =>
    have hchild : ∀ node ∈ tree.subnodes, node.isPairs = false →
        ∀ child ∈ node.children, child.isGroup = false := by
      intro node hnode hpairs child hchild
      refine Bool.eq_false_iff.2 fun hgroup ↦ ?_
      rw [h node hnode child hchild hgroup] at hpairs
      cases hpairs
    -- below the tree, whatever is no group is covered by the induction
    have hbelow : ∀ child ∈ tree.children, ∀ inner ∈ child.subnodes, inner.isGroup = false →
        inner.GroupsOnSides := by
      intro child hchild inner hinner hinnerSingle
      have hsub := subnodes_subset (mem_subnodes_of_child hchild hinner)
      exact ih child hchild inner hinner hinnerSingle fun node hnode ↦ h node (hsub hnode)
    have hchildren : tree.isPairs = false → ∀ child ∈ tree.children, child.GroupsOnSides :=
      fun hpairs child hmem ↦ hbelow child hmem child child.self_mem_subnodes
        (hchild tree tree.self_mem_subnodes hpairs child hmem)
    cases tree with
    | empty => exact .empty
    | nil => exact .nil
    | bool value => exact .bool value
    | text kind content => exact .text kind content
    | group items => cases hsingle
    | seq kind items =>
      cases kind with
      | list => exact .list (hchildren rfl)
      | vector => exact .vector items
      | map => exact .map items
      | forms => exact .forms (hchildren rfl)
      | pairs =>
        refine .pairs fun entry hentry _ side hside part hpart ↦ ?_
        have hitem : side ∈ items := mem_of_mem_sides hentry hside
        have hbelowTree : side ∈ (seq .pairs items).subnodes :=
          mem_subnodes_of_child hitem side.self_mem_subnodes
        refine hbelow side hitem part (mem_subnodes_of_mem_parts hpart) ?_
        refine isGroup_of_mem_parts (fun hgroup ↦ hchild side hbelowTree ?_) hpart
        cases side with
        | group members => rfl
        | _ => cases hgroup

end Node

namespace Lowering

open Node

/-- A node that is finished: it is neither provisional nor a group, and lowering leaves it as it
is. -/
structure IsLowered (node : Node) : Prop where
  isProvisional : node.isProvisional = false
  isGroup : node.isGroup = false
  lower_eq : node.lower = .single node

theorem isLowered_list {items : List Node} (h : ∀ item ∈ items, IsLowered item) :
    IsLowered (.list items) := by
  have hitems : ∀ item ∈ items, item.lower.nodes = [item] := by
    intro item hitem
    rw [(h item hitem).lower_eq]
    rfl
  refine ⟨rfl, rfl, ?_⟩
  rw [lower_list, List.flatMap_congr hitems, List.flatMap_singleton']

/-- Being lowered is kept by everything that lowering builds. -/
theorem closed_isLowered : Closed IsLowered where
  isGroup := IsLowered.isGroup
  text _ _ := ⟨rfl, rfl, rfl⟩
  list := isLowered_list

/-- A canonical node is lowered: there is nothing to take apart at any depth. -/
theorem isLowered_of_isCanonical {node : Node} (h : node.IsCanonical) : IsLowered node := by
  induction node using inductionOn with
  | step node ih =>
    cases node with
    | group items => cases h.isGroup
    | seq kind items =>
      cases kind with
      | list => exact isLowered_list fun item hitem ↦ ih item hitem (h.child hitem)
      | pairs => cases h.isProvisional
      | forms => cases h.isProvisional
      | _ => exact ⟨rfl, rfl, rfl⟩
    | _ => exact ⟨rfl, rfl, rfl⟩

/-- What a tree lowers to is lowered. -/
theorem isLowered_of_mem_lower {tree : Node} (h : tree.GroupsOnSides) :
    ∀ form ∈ tree.lower.nodes, IsLowered form := by
  induction h with
  | empty | nil | bool | text | vector | map =>
    exact List.forall_mem_singleton.2 ⟨rfl, rfl, rfl⟩
  | list _ ih =>
    rw [lower_list]
    refine List.forall_mem_singleton.2 (isLowered_list fun form hform ↦ ?_)
    obtain ⟨item, hitem, hmem⟩ := List.mem_flatMap.1 hform
    exact ih item hitem form hmem
  | forms _ ih =>
    intro form hform
    rw [lower_forms] at hform
    obtain ⟨item, hitem, hmem⟩ := List.mem_flatMap.1 hform
    exact ih item (List.mem_of_mem_filter hitem) form hmem
  | pairs _ ih =>
    rw [lower_pairs, Lowered.nodes, mappingForms_eq]
    -- nothing is asked of the collected terms, since any vector is lowered
    refine closed_isLowered.of_mem_pairForms (Q := fun _ ↦ True) trivial (fun _ _ ↦ trivial)
      (fun _ ↦ ⟨rfl, rfl, rfl⟩) trivial (fun entry hentry hlet ↦ ?_) fun _ _ _ ↦ trivial
    refine closed_isLowered.of_mem_forms fun side hside ↦ ?_
    exact closed_isLowered.of_mem_sideNodes (ih entry hentry hlet side hside)

/-- **Lowering is idempotent.** In every context, the forms that a tree lowers to are neither
provisional nor groups, and each of them lowers to itself in every context. So does every canonical
node. -/
theorem lower_idempotent :
    (∀ tree : Node, tree.GroupsOnSides → ∀ depth : Nat,
      ∃ lowered, (Context.level depth).lower tree = .ok lowered ∧
        ∀ form ∈ lowered.nodes, form.isProvisional = false ∧ form.isGroup = false ∧
          ∀ other : Nat, (Context.level other).lower form = .ok (.single form)) ∧
    ∀ tree : Node, tree.IsCanonical →
      ∀ depth : Nat, (Context.level depth).lower tree = .ok (.single tree) := by
  constructor
  · intro tree htree depth
    refine ⟨tree.lower, rfl, fun form hform ↦ ?_⟩
    obtain ⟨hprovisional, hgroup, hlower⟩ := isLowered_of_mem_lower htree form hform
    refine ⟨hprovisional, hgroup, fun other ↦ ?_⟩
    show Except.ok form.lower = _
    rw [hlower]
  · intro tree htree depth
    show Except.ok tree.lower = _
    rw [(isLowered_of_isCanonical htree).lower_eq]

/-- A block in a list, a mapping with groups on both sides, a vector that holds a mapping and a
group, and a `let` entry whose name is a mapping; and a canonical call. -/
theorem lower_idempotent_nested :
    let mapping : Node := .seq .pairs [
      .group [.sym "f", .seq .forms [.sym "a", .sym "=>", .nil]],
        .group [.seq .pairs [.sym "g", .sym "b"]],
      .group [.sym "let", .seq .pairs [.sym "x", .sym "y"]],
        .vector [.seq .pairs [], .group [.group []]],
      .sym "h", .sym "x"]
    let tree : Node := .list [.seq .forms [mapping, .sym "c"]]
    let call : Node := .list [.sym "f", .vector [.sym "a"]]
    tree.GroupsOnSides ∧ call.IsCanonical ∧
      (∃ lowered, (Context.level 1).lower tree = .ok lowered ∧
        ∀ form ∈ lowered.nodes, form.isProvisional = false ∧ form.isGroup = false ∧
          ∀ other : Nat, (Context.level other).lower form = .ok (.single form)) ∧
      (Context.level 2).lower call = .ok (.single call) := by
  intro mapping tree call
  have hmapping : mapping.GroupsOnSides := by
    have hsingle : ∀ entry ∈ mapping.entries, entry.isLet = false → ∀ side ∈ entry.sides,
        ∀ part ∈ side.parts, part.isGroup = false := by
      decide
    have hgroups : ∀ entry ∈ mapping.entries, entry.isLet = false → ∀ side ∈ entry.sides,
        ∀ part ∈ side.parts, ∀ node ∈ part.subnodes, ∀ child ∈ node.children,
          child.isGroup = true → node.isPairs = true := by
      decide
    refine .pairs fun entry hentry hlet side hside part hpart ↦ ?_
    exact .of_groups (hsingle entry hentry hlet side hside part hpart)
      (hgroups entry hentry hlet side hside part hpart)
  have htree : tree.GroupsOnSides := by
    refine .list (List.forall_mem_singleton.2 (.forms ?_))
    exact List.forall_mem_cons.2 ⟨hmapping, List.forall_mem_singleton.2 (.text _ _)⟩
  have hcall : call.IsCanonical := by decide
  exact ⟨htree, hcall, lower_idempotent.1 tree htree 1, lower_idempotent.2 call hcall 2⟩

end Lowering

end ScriptForms

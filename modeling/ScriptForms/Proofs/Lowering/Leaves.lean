import ScriptForms.Context
import ScriptForms.Proofs.Lowering.Equations

/-!
# Lowering keeps the leaves

Lowering rearranges a tree around its scalars. It reads and writes a few marks of its own, the
symbols `=>`, `let` and `do` and the value nil; apart from these, the leaves of what a tree lowers
to are the leaves of the tree, each once and in the same order (`content_lower`).

A binding holds one value, and the one call that stands for a mapping there is its first form. So a
mapping among the terms of a `let` entry must lower to at most one form, or leaves are lost
(`BindsSingleForms`).

The leaves of a node apart from marks are its `content`. All rules of lowering concatenate, so each
of them is a statement about `flatMap content`, and the marks drop out because they have no content.
-/

namespace ScriptForms

namespace Node

mutual

/-- The scalars in a node, from left to right. -/
def leaves : Node → List Node
  | seq _ items => leavesOf items
  | group items => leavesOf items
  | node => [node]

/-- The scalars in several nodes. -/
def leavesOf : List Node → List Node
  | [] => []
  | node :: rest => leaves node ++ leavesOf rest

end

/-- Whether a leaf is one of the marks that lowering reads and writes. -/
def isMark : Node → Bool
  | nil => true
  | sym name => name == "=>" || name == "let" || name == "do"
  | _ => false

/-- The leaves that are no marks. -/
def erase (leaves : List Node) : List Node :=
  leaves.filter (!·.isMark)

/-- Each mapping among the terms of a `let` entry lowers to at most one form. -/
def BindsSingleForms (tree : Node) : Prop :=
  ∀ node ∈ tree.subnodes, ∀ entry ∈ node.entries, entry.isLet = true →
    ∀ term ∈ entry.terms, term.isPairs = true → term.lower.nodes.length ≤ 1

/-- What is asked of the bindings of a tree is asked at every depth. -/
theorem BindsSingleForms.of_mem_subnodes {inner tree : Node} (h : tree.BindsSingleForms)
    (hinner : inner ∈ tree.subnodes) : inner.BindsSingleForms :=
  fun node hnode ↦ h node (subnodes_subset hinner hnode)

/-! ### Content -/

/-- The leaves of a node apart from marks. -/
def content (node : Node) : List Node :=
  erase node.leaves

/-- Erasing the leaves of nodes is reading off their contents. -/
theorem erase_leavesOf (nodes : List Node) : erase (leavesOf nodes) = nodes.flatMap content := by
  induction nodes with
  | nil => rfl
  | cons node rest ih =>
    rw [leavesOf, List.flatMap_cons, ← ih]
    exact List.filter_append _ _

theorem content_seq (kind : SeqKind) (items : List Node) :
    (seq kind items).content = items.flatMap content :=
  erase_leavesOf items

theorem content_group (items : List Node) : (group items).content = items.flatMap content :=
  erase_leavesOf items

/-- The symbols that lowering adds or drops are no content. -/
theorem content_sym_of_isMark {name : String} (h : (sym name).isMark = true) :
    (sym name).content = [] := by
  show [sym name].filter (!·.isMark) = []
  rw [List.filter_singleton, h]
  rfl

theorem content_nil : nil.content = [] :=
  rfl

/-- Inlining groups keeps the content. -/
theorem flatMap_content_members (node : Node) : node.members.flatMap content = node.content := by
  induction node using inductionOn with
  | step node ih =>
    cases node with
    | group items =>
      rw [members_group, List.flatMap_assoc, content_group]
      exact List.flatMap_congr ih
    | _ => exact List.flatMap_singleton _ _

/-- Dissolving groups keeps the contents. -/
theorem flatMap_members_content (nodes : List Node) :
    (nodes.flatMap members).flatMap content = nodes.flatMap content := by
  rw [List.flatMap_assoc]
  exact List.flatMap_congr fun node _ ↦ flatMap_content_members node

end Node

/-- The scalars in what a node lowers to. -/
def Lowered.leaves (lowered : Lowered) : List Node :=
  Node.leavesOf lowered.nodes

namespace Lowering

open Node

/-- What has no content may be dropped. -/
theorem flatMap_filter_of_eq_nil {p : Node → Bool} {nodes : List Node} {f : Node → List Node}
    (h : ∀ node ∈ nodes, p node = false → f node = []) :
    (nodes.filter p).flatMap f = nodes.flatMap f := by
  induction nodes with
  | nil => rfl
  | cons node rest ih =>
    obtain ⟨hnode, hrest⟩ := List.forall_mem_cons.1 h
    cases hp : p node with
    | true => rw [List.filter_cons_of_pos hp, List.flatMap_cons, List.flatMap_cons, ih hrest]
    | false =>
      rw [List.filter_cons_of_neg (by rw [hp]; exact Bool.false_ne_true),
        List.flatMap_cons, hnode hp,
        ih hrest, List.nil_append]

/-! ### Bindings -/

/-- Making one node of several adds a mark at most. -/
theorem content_oneNode (nodes : List Node) : (oneNode nodes).content = nodes.flatMap content := by
  match nodes with
  | [] => exact content_nil
  | [node] => exact (List.flatMap_singleton _ _).symm
  | first :: second :: rest =>
    show (Node.list (.sym "do" :: first :: second :: rest)).content = _
    rw [content_seq, List.flatMap_cons, content_sym_of_isMark rfl, List.nil_append]

/-- The one call for a mapping keeps the content if the mapping has at most one form. -/
theorem content_oneCall {nodes : List Node} (h : nodes.length ≤ 1) :
    (oneCall nodes).content = nodes.flatMap content := by
  match nodes, h with
  | [], _ => exact content_seq _ _
  | [node], _ =>
    rw [List.flatMap_singleton]
    unfold oneCall
    split
    · next heq => cases heq
    · next heq => cases heq; rfl
    · next heq => cases heq; rw [content_seq, flatMap_content_members]

/-- Being bound keeps the content. -/
theorem content_bound {node : Node} (hlower : node.lower.nodes.flatMap content = node.content)
    (hpairs : node.isPairs = true → node.lower.nodes.length ≤ 1) :
    (Term.of node).bound.content = node.content := by
  unfold Term.bound
  split
  · next items hnode =>
    rw [← hlower]
    exact content_oneCall (hpairs (by rw [show node = .seq .pairs items from hnode]; rfl))
  · rw [← hlower]
    exact content_oneNode _

/-- The vector of bindings has the contents of its terms. -/
theorem content_bindings {terms : List Term}
    (h : ∀ term ∈ terms, term.bound.content = term.node.content) :
    (bindings terms).flatMap content = terms.flatMap (·.node.content) := by
  fun_induction bindings terms with
  | case1 => rfl
  | case2 name => rfl
  | case3 name value rest ih =>
    have hvalue := h value (List.mem_cons_of_mem _ List.mem_cons_self)
    have hrest := ih fun term hterm ↦ h term (List.mem_cons_of_mem _ (List.mem_cons_of_mem _ hterm))
    rw [List.flatMap_cons, List.flatMap_append, flatMap_content_members, hvalue, hrest,
      List.flatMap_cons, List.flatMap_cons]

/-- Closing a group of bindings puts their contents before those of the body. -/
theorem content_close {lets : Option (List Term)} {body : List Node}
    (h : ∀ term ∈ lets.getD [], term.bound.content = term.node.content) :
    (close lets body).flatMap content =
      (lets.getD []).flatMap (·.node.content) ++ body.flatMap content := by
  cases lets with
  | none => rfl
  | some terms =>
    rw [Option.getD_some] at h ⊢
    rw [close, List.flatMap_singleton, content_seq, List.flatMap_cons, content_sym_of_isMark rfl,
      List.nil_append, List.flatMap_cons, content_seq, content_bindings h]

/-! ### Entries -/

theorem content_terms (entry : Entry) : entry.terms.flatMap content = entry.sides.flatMap content :=
  flatMap_members_content entry.sides

theorem content_forms {entry : Entry}
    (h : ∀ side ∈ entry.sides, side.sideNodes.flatMap content = side.content) :
    entry.forms.flatMap content = entry.sides.flatMap content := by
  obtain ⟨key, value⟩ := entry
  have hsides : ∀ sides : List Node, (∀ side ∈ sides, side ∈ Entry.sides ⟨key, value⟩) →
      (sides.flatMap sideNodes).flatMap content = sides.flatMap content := by
    intro sides hsub
    rw [List.flatMap_assoc]
    exact List.flatMap_congr fun side hside ↦ h side (hsub side hside)
  simp only [Entry.forms]
  split
  · rw [hsides _ fun side hside ↦ List.mem_cons_of_mem _ hside, Entry.sides, List.flatMap_cons,
      content_sym_of_isMark rfl, List.nil_append]
  · rfl
  · rw [List.flatMap_singleton, content_seq, hsides _ fun side hside ↦ hside]

/-- The induction along a mapping: the content of the terms collected so far comes first. -/
theorem content_pairForms {entries : List Entry} {lets : Option (List Term)}
    (hlets : ∀ term ∈ lets.getD [], term.bound.content = term.node.content)
    (hforms : ∀ entry ∈ entries, entry.isLet = false →
      entry.forms.flatMap content = entry.sides.flatMap content)
    (hterms : ∀ entry ∈ entries, entry.isLet = true →
      ∀ term ∈ entry.terms, (Term.of term).bound.content = term.content) :
    (pairForms lets (entries.map Pair.of)).flatMap content =
      (lets.getD []).flatMap (·.node.content) ++ entries.flatMap (·.sides.flatMap content) := by
  induction entries generalizing lets with
  | nil => exact content_close hlets
  | cons entry rest ih =>
    obtain ⟨hentry, hrest⟩ := List.forall_mem_cons.1 hforms
    obtain ⟨hentry', hrest'⟩ := List.forall_mem_cons.1 hterms
    rw [List.map_cons, List.flatMap_cons]
    cases hlet : entry.isLet with
    | true =>
      have hcollected : ((entry.terms.filter (!·.isSymbol "let")).map Term.of).flatMap
        (·.node.content) =
          entry.sides.flatMap content := by
        rw [List.flatMap_map, ← content_terms]
        refine flatMap_filter_of_eq_nil fun term _ hterm ↦ ?_
        rw [isSymbol_iff.1 (Bool.not_eq_eq_eq_not.1 hterm)]
        exact content_sym_of_isMark rfl
      rw [pairForms_cons_let hlet, ih _ hrest hrest', Option.getD_some,
        List.flatMap_append, hcollected,
        List.append_assoc]
      refine List.forall_mem_append.2 ⟨hlets, fun term hterm ↦ ?_⟩
      obtain ⟨node, hnode, rfl⟩ := List.mem_map.1 hterm
      exact hentry' hlet node (List.mem_of_mem_filter hnode)
    | false =>
      have hbody : (pairForms none (rest.map Pair.of)).flatMap content =
          rest.flatMap (·.sides.flatMap content) :=
        ih (List.forall_mem_nil _) hrest hrest'
      rw [pairForms_cons_of_not_let hlet, content_close hlets, List.flatMap_append,
        hentry hlet, hbody]

/-! ### Trees -/

/-- A side has the contents of its nodes, if lowering keeps those of what is in it. -/
theorem content_sideNodes {side : Node}
    (h : ∀ inner ∈ side.subnodes, inner.lower.nodes.flatMap content = inner.content) :
    side.sideNodes.flatMap content = side.content := by
  cases hgroup : side.isGroup with
  | false =>
    rw [sideNodes_of_not_group hgroup, flatMap_members_content]
    exact h side side.self_mem_subnodes
  | true =>
    cases side with
    | group items =>
      rw [sideNodes_group, List.flatMap_assoc, content_group]
      refine List.flatMap_congr fun item hitem ↦ ?_
      rw [flatMap_members_content]
      exact h item (mem_subnodes_of_child hitem item.self_mem_subnodes)
    | _ => cases hgroup

/-- A mapping, as far as everything below it keeps its content. -/
theorem content_mappingForms {items : List Node} (h : (Node.seq .pairs items).BindsSingleForms)
    (hbelow : ∀ item ∈ items, ∀ inner ∈ item.subnodes,
      inner.lower.nodes.flatMap content = inner.content) :
    (mappingForms items).flatMap content = items.flatMap content := by
  have hside : ∀ entry ∈ entriesOf items, ∀ side ∈ entry.sides, ∀ inner ∈ side.subnodes,
      inner.lower.nodes.flatMap content = inner.content :=
    fun entry hentry side hside ↦ hbelow side (mem_of_mem_sides hentry hside)
  rw [mappingForms_eq, content_pairForms (List.forall_mem_nil _)]
  · show (entriesOf items).flatMap (·.sides.flatMap content) = _
    rw [← List.flatMap_assoc, flatMap_sides_entriesOf]
  · exact fun entry hentry _ ↦ content_forms fun side hmem ↦
      content_sideNodes (hside entry hentry side hmem)
  · intro entry hentry hlet term hterm
    obtain ⟨side, hmem, hpart⟩ := List.mem_flatMap.1 hterm
    exact content_bound (hside entry hentry side hmem term (mem_subnodes_of_mem_members hpart))
      (h _ (self_mem_subnodes _) entry hentry hlet term hterm)

/-- What a tree lowers to has the content of the tree. -/
theorem content_lower {tree : Node} (h : tree.BindsSingleForms) :
    tree.lower.nodes.flatMap content = tree.content := by
  induction tree using strongInductionOn with
  | step tree ih =>
    have hbelow : ∀ child ∈ tree.children, ∀ inner ∈ child.subnodes,
        inner.lower.nodes.flatMap content = inner.content := fun child hchild inner hinner ↦
      ih child hchild inner hinner (h.of_mem_subnodes (mem_subnodes_of_child hchild hinner))
    have hchildren : ∀ child ∈ tree.children, child.lower.nodes.flatMap content = child.content :=
      fun child hchild ↦ hbelow child hchild child child.self_mem_subnodes
    cases tree with
    | seq kind items =>
      cases kind with
      | list =>
        rw [lower_list, Lowered.nodes, List.flatMap_singleton, content_seq, content_seq,
          List.flatMap_assoc]
        exact List.flatMap_congr hchildren
      | forms =>
        rw [lower_forms, Lowered.nodes, List.flatMap_assoc, content_seq]
        refine .trans (flatMap_filter_of_eq_nil fun item _ harrow ↦
          ?_) (List.flatMap_congr hchildren)
        rw [bne_eq_false_iff_eq.1 harrow, Lowered.nodes, List.flatMap_singleton]
        exact content_sym_of_isMark rfl
      | pairs =>
        rw [lower_pairs, Lowered.nodes, content_seq]
        exact content_mappingForms h hbelow
      | vector => exact List.flatMap_singleton _ _
      | map => exact List.flatMap_singleton _ _
    | _ => exact List.flatMap_singleton _ _

/-- **Lowering loses, duplicates and reorders nothing.** In every context, a tree lowers to nodes
with the same leaves, apart from marks. -/
theorem lower_keeps_leaves {tree : Node} (h : tree.BindsSingleForms) (depth : Nat) :
    ∃ lowered, (Context.level depth).lower tree = .ok lowered ∧
      erase lowered.leaves = erase tree.leaves := by
  refine ⟨tree.lower, rfl, ?_⟩
  rw [Lowered.leaves, erase_leavesOf]
  exact content_lower h

/-- A `let` entry with two bindings, one of them to a mapping in a group. -/
theorem lower_keeps_leaves_nested_let :
    let tree : Node := .seq .pairs [
      .group [.sym "let", .sym "x", .seq .pairs [.sym "f",
        .seq .forms [.nil, .sym "=>", .sym "a"]]],
      .group [.sym "y", .vector [.sym "x"]],
      .sym "=>", .seq .pairs [.text .string "b", .sym "x", .sym "c"]]
    tree.BindsSingleForms ∧
      ∃ lowered, (Context.level 3).lower tree = .ok lowered ∧
        erase lowered.leaves = erase tree.leaves := by
  intro tree
  have h : tree.BindsSingleForms := by
    rw [BindsSingleForms]
    decide
  exact ⟨h, lower_keeps_leaves h 3⟩

/-- The second form of a mapping that is bound to a name is lost. -/
example :
    let tree : Node := .seq .pairs [
      .group [.sym "let", .sym "x"], .seq .pairs [.sym "f", .sym "a", .sym "g", .sym "b"],
      .sym "h", .sym "x"]
    erase tree.leaves = [.sym "x", .sym "f", .sym "a", .sym "g", .sym "b", .sym "h", .sym "x"] ∧
      erase tree.lower.leaves = [.sym "x", .sym "f", .sym "a", .sym "h", .sym "x"] := by
  decide

end Lowering

end ScriptForms

import ScriptForms.Proofs.Lowering.Closure
import ScriptForms.Proofs.Node.Canonical
import ScriptForms.Proofs.Program.Completion

/-!
# Lowering eliminates provisional nodes

The trees that a parser writes are `WellFormed`: groups stand only in mappings, literals hold
nothing provisional, and each `let` entry binds one name to one value. Such a tree lowers to
canonical nodes, whatever the nesting of mappings, blocks, lists and bindings
(`isCanonical_of_mem_lower`). The proof is one induction on the tree. Of a mapping it needs two
facts, that being canonical is passed on by the ways in which lowering builds forms
(`closed_isCanonical`), and that the terms of `let` entries come in pairs of a canonical name and a
value that lowers to canonical nodes (`Bindable`).

Completing the program adds canonical forms only, so the program of a well-formed tree has a text.
-/

namespace ScriptForms

namespace Node

/-- Whether the node is a vector or a map. -/
def isLiteral : Node → Bool
  | seq .vector _ => true
  | seq .map _ => true
  | _ => false

/-- Whether a `let` entry has one name and one value behind the word `let`, in one of the spellings
`(let x): v` and `let: (x v)`. Neither may be that word again, and the name holds nothing
provisional. -/
def Entry.bindsOne (entry : Entry) : Bool :=
  match entry.terms with
  | [_, name, value] =>
    !name.isSymbol "let" && !value.isSymbol "let" && name.subnodes.all (!·.isProvisional)
  | _ => false

/-- What a parser promises of a tree. -/
structure WellFormed (tree : Node) : Prop where
  /-- A group stands directly in a mapping. In particular no group stands in a group. -/
  groups : ∀ node ∈ tree.subnodes, ∀ child ∈ node.children, child.isGroup = true →
    node.isPairs = true
  /-- Vectors and maps hold nothing provisional at any depth. -/
  literals : ∀ node ∈ tree.subnodes, node.isLiteral = true →
    ∀ inner ∈ node.subnodes, inner.isProvisional = false
  /-- A `let` entry binds one name to one value. -/
  lets : ∀ node ∈ tree.subnodes, ∀ entry ∈ node.entries, entry.isLet = true → entry.bindsOne = true

namespace WellFormed

/-- What is asked of a tree is asked at every depth. -/
theorem of_mem_subnodes {inner tree : Node} (h : tree.WellFormed) (hinner : inner ∈ tree.subnodes) :
    inner.WellFormed where
  groups node hnode := h.groups node (subnodes_subset hinner hnode)
  literals node hnode := h.literals node (subnodes_subset hinner hnode)
  lets node hnode := h.lets node (subnodes_subset hinner hnode)

theorem child {child tree : Node} (h : tree.WellFormed) (hchild : child ∈ tree.children) :
    child.WellFormed :=
  h.of_mem_subnodes (mem_subnodes_of_child hchild child.self_mem_subnodes)

/-- Only mappings have groups as children. -/
theorem isGroup_child {child tree : Node} (h : tree.WellFormed) (hpairs : tree.isPairs = false)
    (hchild : child ∈ tree.children) : child.isGroup = false := by
  cases hgroup : child.isGroup with
  | false => rfl
  | true => rw [h.groups tree tree.self_mem_subnodes child hchild hgroup] at hpairs; cases hpairs

/-- A group on one side of an entry holds single nodes. -/
theorem mem_members_of_mem_parts {part side : Node} (h : side.WellFormed)
    (hpart : part ∈ side.parts) :
    part ∈ side.members := by
  cases side with
  | group items =>
    have hsingle : part.isGroup = false := h.isGroup_child rfl hpart
    rw [members_group]
    refine List.mem_flatMap.2 ⟨part, hpart, ?_⟩
    rw [members_of_not_group hsingle]
    exact List.mem_cons_self
  | _ => exact hpart

/-- Without provisional nodes there are no mappings, and so no groups. -/
theorem isCanonical {tree : Node} (h : tree.WellFormed) (hgroup : tree.isGroup = false)
    (hinner : ∀ inner ∈ tree.subnodes, inner.isProvisional = false) : tree.IsCanonical := by
  intro inner hmem
  refine ⟨hinner inner hmem, ?_⟩
  rcases exists_parent_of_mem_subnodes hmem with rfl | ⟨parent, hparent, hchild⟩
  · exact hgroup
  · refine (h.of_mem_subnodes hparent).isGroup_child ?_ hchild
    have hprovisional := hinner parent hparent
    cases parent with
    | seq kind items =>
      cases kind with
      | pairs => cases hprovisional
      | forms => cases hprovisional
      | _ => rfl
    | _ => rfl

end WellFormed

end Node

namespace Lowering

open Node

/-! ### Bindings -/

/-- Several nodes become one by a call of `do`, which is canonical. -/
theorem isCanonical_oneNode {nodes : List Node} (h : ∀ node ∈ nodes, node.IsCanonical) :
    (oneNode nodes).IsCanonical := by
  match nodes with
  | [] => exact isCanonical_of_children rfl rfl (List.forall_mem_nil _)
  | [node] => exact h node List.mem_cons_self
  | first :: second :: rest =>
    exact isCanonical_list (List.forall_mem_cons.2 ⟨isCanonical_text _ _, h⟩)

theorem isCanonical_oneCall {nodes : List Node} (h : ∀ node ∈ nodes, node.IsCanonical) :
    (oneCall nodes).IsCanonical := by
  cases nodes with
  | nil => exact isCanonical_list (List.forall_mem_nil _)
  | cons first rest =>
    have hfirst := h first List.mem_cons_self
    unfold oneCall
    split
    · next heq => cases heq
    · next heq => cases heq; exact hfirst
    · next heq =>
      cases heq
      rw [hfirst.members]
      exact isCanonical_list (List.forall_mem_singleton.2 hfirst)

/-- What a binding holds is the lowered value, made one node. -/
theorem isCanonical_bound {node : Node} (h : ∀ inner ∈ node.lower.nodes, inner.IsCanonical) :
    (Term.of node).bound.IsCanonical := by
  unfold Term.bound
  split
  · exact isCanonical_oneCall h
  · exact isCanonical_oneNode h

/-- Terms that make up a binding vector: canonical names, each followed by a value that is bound to
a canonical node. -/
inductive Bindable : List Term → Prop
  | nil : Bindable []
  | cons {name value : Term} {rest : List Term} (hname : name.node.IsCanonical)
      (hvalue : value.bound.IsCanonical) (hrest : Bindable rest) : Bindable (name :: value :: rest)

theorem Bindable.append {terms more : List Term} (h : Bindable terms) (hmore : Bindable more) :
    Bindable (terms ++ more) := by
  induction h with
  | nil => exact hmore
  | cons hname hvalue _ ih => exact .cons hname hvalue ih

/-- The vector of bindings holds canonical nodes only. -/
theorem Bindable.isCanonical {terms : List Term} (h : Bindable terms) :
    ∀ node ∈ bindings terms, node.IsCanonical := by
  induction h with
  | nil => exact List.forall_mem_nil _
  | cons hname hvalue _ ih =>
    rw [bindings, hvalue.members]
    exact List.forall_mem_cons.2 ⟨hname, List.forall_mem_cons.2 ⟨hvalue, ih⟩⟩

/-! ### Entries -/

/-- Being canonical is kept by everything that lowering builds. -/
theorem closed_isCanonical : Closed IsCanonical where
  isGroup := IsCanonical.isGroup
  text := isCanonical_text
  list := isCanonical_list

/-- The first term of a `let` entry is the word `let`. -/
theorem exists_terms_eq_of_isLet {entry : Entry} (h : entry.isLet = true) :
    ∃ rest, entry.terms = .sym "let" :: rest := by
  obtain ⟨key, value⟩ := entry
  simp only [Entry.isLet] at h
  split at h
  · next first members =>
    rw [isSymbol_iff.1 h]
    exact ⟨_, rfl⟩
  · rw [isSymbol_iff.1 h]
    exact ⟨_, rfl⟩

/-- The terms of an entry that binds one name, as far as its parts are lowered to canonical
nodes. -/
theorem bindable_of_bindsOne {entry : Entry} (hsides : ∀ side ∈ entry.sides, side.WellFormed)
    (hlet : entry.isLet = true) (hbinds : entry.bindsOne = true)
    (hparts : ∀ part ∈ entry.terms, ∀ node ∈ part.lower.nodes, node.IsCanonical) :
    Bindable ((entry.terms.filter (!·.isSymbol "let")).map Term.of) := by
  rw [Entry.bindsOne] at hbinds
  split at hbinds
  · next first name value hterms =>
    obtain ⟨rest, hrest⟩ := exists_terms_eq_of_isLet hlet
    simp only [Bool.and_eq_true, Bool.not_eq_true', List.all_eq_true] at hbinds
    obtain ⟨⟨hname, hvalue⟩, hprovisional⟩ := hbinds
    rw [hterms] at hrest
    cases hrest
    have hterm : ∀ term ∈ entry.terms, term.WellFormed ∧ term.isGroup = false := by
      intro term hterm
      obtain ⟨side, hside, hmem⟩ := List.mem_flatMap.1 hterm
      exact ⟨(hsides side hside).of_mem_subnodes (mem_subnodes_of_mem_members hmem),
        isGroup_of_mem_members hmem⟩
    rw [hterms] at hparts hterm ⊢
    obtain ⟨hwf, hgroup⟩ := hterm name (by simp)
    have hfilter : [.sym "let", name, value].filter (!·.isSymbol "let") = [name, value] := by
      simp [hname, hvalue, isSymbol_iff.2]
    rw [hfilter]
    exact .cons (hwf.isCanonical hgroup hprovisional)
      (isCanonical_bound (hparts value (by simp))) .nil
  · cases hbinds

/-! ### Trees -/

/-- A mapping, as far as the parts of its keys and values are lowered to canonical nodes. -/
theorem isCanonical_of_mem_mappingForms {items : List Node} (h : (Node.seq .pairs items).WellFormed)
    (hparts : ∀ side ∈ items, ∀ part ∈ side.members, ∀ node ∈ part.lower.nodes, node.IsCanonical) :
    ∀ node ∈ mappingForms items, node.IsCanonical := by
  have hside : ∀ entry ∈ entriesOf items, ∀ side ∈ entry.sides, side ∈ items :=
    fun entry hentry side hside ↦ mem_of_mem_sides hentry hside
  have hwf : ∀ side ∈ items, side.WellFormed := fun side hmem ↦ h.child hmem
  rw [mappingForms_eq]
  refine closed_isCanonical.of_mem_pairForms Bindable.nil Bindable.append
    (fun hterms ↦ isCanonical_vector hterms.isCanonical) Bindable.nil
    (fun entry hentry _ ↦ ?_) fun entry hentry hlet ↦ ?_
  · refine closed_isCanonical.of_mem_forms fun side hmem ↦ ?_
    have hitem := hside entry hentry side hmem
    refine closed_isCanonical.of_mem_sideNodes fun part hpart ↦ ?_
    exact hparts side hitem part ((hwf side hitem).mem_members_of_mem_parts hpart)
  · have hbinds := h.lets _ (self_mem_subnodes _) entry hentry hlet
    refine bindable_of_bindsOne (fun side hmem ↦
      hwf side (hside entry hentry side hmem)) hlet hbinds
      fun part hpart ↦ ?_
    obtain ⟨side, hmem, hpart⟩ := List.mem_flatMap.1 hpart
    exact hparts side (hside entry hentry side hmem) part hpart

/-- **Well-formed trees lower to canonical nodes.** For a group this is said of its members. -/
theorem isCanonical_of_mem_lower {tree : Node} (h : tree.WellFormed) :
    ∀ part ∈ tree.members, ∀ node ∈ part.lower.nodes, node.IsCanonical := by
  induction tree using inductionOn with
  | step tree ih =>
    -- away from mappings, each child is a single node, and lowers by itself
    have hchildren : tree.isPairs = false →
        ∀ child ∈ tree.children, ∀ node ∈ child.lower.nodes, node.IsCanonical := by
      intro hpairs child hchild
      refine ih child hchild (h.child hchild) child ?_
      rw [members_of_not_group (h.isGroup_child hpairs hchild)]
      exact List.mem_cons_self
    cases tree with
    | group items =>
      intro part hpart
      rw [members_group] at hpart
      obtain ⟨item, hitem, hmem⟩ := List.mem_flatMap.1 hpart
      exact ih item hitem (h.child hitem) part hmem
    | seq kind items =>
      refine List.forall_mem_singleton.2 ?_
      cases kind with
      | list =>
        rw [lower_list]
        refine List.forall_mem_singleton.2 (isCanonical_list fun node hnode ↦ ?_)
        obtain ⟨item, hitem, hmem⟩ := List.mem_flatMap.1 hnode
        exact hchildren rfl item hitem node hmem
      | vector =>
        refine List.forall_mem_singleton.2 (h.isCanonical rfl ?_)
        exact h.literals _ (self_mem_subnodes _) rfl
      | map =>
        refine List.forall_mem_singleton.2 (h.isCanonical rfl ?_)
        exact h.literals _ (self_mem_subnodes _) rfl
      | forms =>
        rw [lower_forms]
        intro node hnode
        obtain ⟨item, hitem, hmem⟩ := List.mem_flatMap.1 hnode
        exact hchildren rfl item (List.mem_of_mem_filter hitem) node hmem
      | pairs =>
        rw [lower_pairs, Lowered.nodes]
        exact isCanonical_of_mem_mappingForms h fun side hside ↦ ih side hside (h.child hside)
    | _ =>
      refine List.forall_mem_singleton.2 (List.forall_mem_singleton.2 ?_)
      exact isCanonical_of_children rfl rfl (List.forall_mem_nil _)

end Lowering

/-! ### Programs -/

namespace Program

/-- A declaration is a list of symbols. -/
theorem isCanonical_declaration (names : List String) :
    (Node.list (.sym "declare" :: names.map .sym)).IsCanonical := by
  refine Node.isCanonical_list (List.forall_mem_cons.2 ⟨Node.isCanonical_text _ _, ?_⟩)
  intro node hnode
  obtain ⟨name, -, rfl⟩ := List.mem_map.1 hnode
  exact Node.isCanonical_text _ _

/-- Completing a program adds canonical forms only. -/
theorem isCanonical_of_mem_completed {program : Program}
    (h : ∀ form ∈ program.forms, form.IsCanonical) :
    ∀ form ∈ program.declareForward.appendMainCall.forms, form.IsCanonical := by
  intro form hform
  rw [forms_completed] at hform
  rcases List.mem_append.1 hform with hform | hmain
  · rcases List.mem_append.1 hform with hform | hrest
    · rcases List.mem_append.1 hform with hahead | hdeclared
      · exact h form (List.mem_of_mem_take hahead)
      · cases hnames : program.undeclared with
        | nil => rw [hnames] at hdeclared; cases hdeclared
        | cons name rest =>
          rw [hnames, declarations_cons] at hdeclared
          rw [List.mem_singleton.1 hdeclared]
          exact isCanonical_declaration _
    · exact h form (List.mem_of_mem_drop hrest)
  · rw [mainCalls] at hmain
    split at hmain
    · rw [List.mem_singleton.1 hmain]
      decide
    · cases hmain

/-- A program of canonical forms can be printed. -/
theorem exists_print_eq_ok {program : Program} (h : ∀ form ∈ program.forms, form.IsCanonical) :
    ∃ text, program.print = .ok text := by
  obtain ⟨texts, htexts⟩ := Node.exists_printItems_eq_ok fun form hform ↦
    Node.exists_print_eq_ok (h form hform)
  refine ⟨"\n".intercalate texts, ?_⟩
  rw [print, htexts]
  rfl

/-- **Provisional nodes are eliminated.** The program of a well-formed tree is canonical at every
depth. So it has a text, and compiling the tree without a formatter gives that text. -/
theorem ofDocument_canonical_and_compiles {tree : Node} (hnode : tree.isGroup = false)
    (h : tree.WellFormed) :
    (∀ form ∈ (ofDocument tree).forms, form.IsCanonical) ∧
      ∃ text, (ofDocument tree).print = .ok text ∧
        ∀ tool raw, Node.ofJson raw = .ok tree →
          (compile tool .identity raw).result = .ok (text, (ofDocument tree).forms.length) := by
  have hlower : ∀ form ∈ (ofNode tree).forms, form.IsCanonical :=
    Lowering.isCanonical_of_mem_lower h tree
      (by rw [Node.members_of_not_group hnode]; exact List.mem_cons_self)
  have hforms := isCanonical_of_mem_completed hlower
  obtain ⟨text, htext⟩ := exists_print_eq_ok hforms
  refine ⟨hforms, text, htext, fun tool raw hraw ↦ ?_⟩
  have hprint : printTree raw = .ok (text, (ofDocument tree).forms.length) := by
    rw [printTree, build, hraw]
    show (do let text ← (ofDocument tree).print.mapError CompileError.node
             return (text, (ofDocument tree).forms.length)) = _
    rw [ofDocument, htext]
    rfl
  rw [compile, hprint]
  rfl

/-- Both spellings of a binding, with a block and a mapping as values. -/
theorem ofDocument_canonical_and_compiles_nested_let :
    let tree : Node := .seq .pairs [
      .group [.sym "let", .sym "x"],
      .seq .forms [.list [.sym "f", .seq .pairs [.sym "g", .text .integer "1"]], .sym "=>", .nil],
      .sym "let", .group [.sym "y", .seq .pairs [.sym "h", .sym "x"]],
      .sym "println", .vector [.sym "x", .sym "y"]]
    tree.isGroup = false ∧ tree.WellFormed ∧ Node.ofJson tree.toJson = .ok tree ∧
      ∃ text, ∀ tool, (compile tool .identity tree.toJson).result = .ok (text, 1) := by
  intro tree
  have hwf : tree.WellFormed := ⟨by decide, by decide, by decide⟩
  obtain ⟨-, text, -, hcompile⟩ := ofDocument_canonical_and_compiles rfl hwf
  exact ⟨rfl, hwf, rfl, text, fun tool ↦ hcompile tool tree.toJson rfl⟩

end Program

end ScriptForms

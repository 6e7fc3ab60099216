import Mathlib.Data.List.Basic
import ScriptForms.Lowering
import ScriptForms.Proofs.Node.Subnodes

/-!
# The equations of lowering

Lowering is defined as a fold whose rules work on the items of the children. Statements about it are
about nodes, and this module gives the equations in those terms, one for each kind of node:

* a list, a block or a mapping lowers to what its children lower to (`lower_list`, `lower_forms`,
  `lower_pairs`), and everything else to itself;
* a mapping is read as a list of entries (`entriesOf`), and each pair that the fold works on is the
  one of an entry (`mappingForms_eq`);
* an entry that is no `let` entry has the forms `Entry.forms`, and a `let` entry has the terms
  `Entry.terms`, the fold's terms for it being these without the word `let` (`terms_pair`).

Later proofs use these equations and leave the items alone.
-/

namespace ScriptForms

namespace Node

/-- A key of a mapping with its value, if it has one. -/
structure Entry where
  key : Node
  value : Option Node
  deriving DecidableEq

/-- The entries of a mapping, from its alternating keys and values. -/
def entriesOf : List Node → List Entry
  | [] => []
  | [key] => [⟨key, none⟩]
  | key :: value :: rest => ⟨key, some value⟩ :: entriesOf rest

/-- The entries of a node that is a mapping. -/
def entries : Node → List Entry
  | seq .pairs items => entriesOf items
  | _ => []

/-- The nodes that a node lowers to as one side of an entry, with groups inlined. -/
def sideNodes (node : Node) : List Node :=
  (Lowering.item node).side.flatten

namespace Entry

/-- The key and the value. -/
def sides (entry : Entry) : List Node :=
  entry.key :: entry.value.toList

/-- Whether the entry belongs to a `let` form. -/
def isLet (entry : Entry) : Bool :=
  match entry.key with
  | .group (first :: _) => first.isSymbol "let"
  | key => key.isSymbol "let"

/-- The single nodes on both sides. -/
def terms (entry : Entry) : List Node :=
  entry.sides.flatMap members

/-- The forms of an entry that is no `let` entry. -/
def forms (entry : Entry) : List Node :=
  match entry.key, entry.value with
  | .sym "=>", value => value.toList.flatMap sideNodes
  | .text .string content, none => [.text .string content]
  | _, _ => [.list (entry.sides.flatMap sideNodes)]

end Entry

/-- The sides of the entries are the items of the mapping. -/
theorem flatMap_sides_entriesOf (items : List Node) :
    (entriesOf items).flatMap Entry.sides = items := by
  fun_induction entriesOf items with
  | case1 => rfl
  | case2 key => rfl
  | case3 key value rest ih => rw [List.flatMap_cons, ih]; rfl

/-- The sides of entries are items of the mapping. -/
theorem mem_of_mem_sides {items : List Node} {entry : Entry} {side : Node}
    (hentry : entry ∈ entriesOf items) (hside : side ∈ entry.sides) : side ∈ items := by
  rw [← flatMap_sides_entriesOf items]
  exact List.mem_flatMap.2 ⟨entry, hentry, hside⟩

/-- Behind whole entries, the entries are those of what stands there. -/
theorem entriesOf_append {items : List Node} (heven : items.length % 2 = 0) (more : List Node) :
    entriesOf (items ++ more) = entriesOf items ++ entriesOf more := by
  fun_induction entriesOf items with
  | case1 => rfl
  | case2 key => cases heven
  | case3 key value rest ih =>
    have hrest : rest.length % 2 = 0 := by
      simp only [List.length_cons] at heven
      omega
    show ⟨key, some value⟩ :: entriesOf (rest ++ more) = _
    rw [ih hrest, List.cons_append]

/-- If the entries of a mapping fall into two parts, each part is the entries of its own sides. -/
theorem entriesOf_flatMap_sides {items : List Node} {entries more : List Entry}
    (h : entriesOf items = entries ++ more) :
    entriesOf (entries.flatMap Entry.sides) = entries ∧
      entriesOf (more.flatMap Entry.sides) = more := by
  induction entries generalizing items with
  | nil =>
    refine ⟨rfl, ?_⟩
    rw [List.nil_append] at h
    rw [← h, flatMap_sides_entriesOf]
  | cons entry rest ih =>
    rw [List.cons_append] at h
    fun_cases entriesOf items with
    | case1 => cases h
    | case2 key =>
      obtain ⟨rfl, hrest⟩ := List.cons.inj h
      obtain ⟨rfl, rfl⟩ := List.append_eq_nil_iff.1 hrest.symm
      exact ⟨rfl, rfl⟩
    | case3 key value tail =>
      obtain ⟨rfl, htail⟩ := List.cons.inj h
      obtain ⟨hentries, hmore⟩ := ih htail
      refine ⟨?_, hmore⟩
      show ⟨key, some value⟩ :: entriesOf (rest.flatMap Entry.sides) = _
      rw [hentries]

end Node

namespace Lowering

/-! ### Items -/

theorem items_eq_map (nodes : List Node) : items nodes = nodes.map item := by
  induction nodes with
  | nil => rfl
  | cons node rest ih => rw [items, ih, List.map_cons]

theorem item_group (members : List Node) :
    item (.group members) = .ofGroup members (members.map item) := by
  rw [item, items_eq_map]

theorem item_node (node : Node) : (item node).node = node := by
  cases node with
  | seq kind nodes => cases kind <;> rfl
  | _ => rfl

/-- The term of a single node. -/
def Term.of (node : Node) : Term :=
  ⟨node, node.lower, node.letReports⟩

/-- The pair of an entry. -/
def Pair.of (entry : Node.Entry) : Pair :=
  ⟨item entry.key, entry.value.map item⟩

/-- The terms of an item are those of the members of its node. -/
theorem item_terms (node : Node) : (item node).terms = node.members.map Term.of := by
  induction node using Node.inductionOn with
  | step node ih =>
    cases node with
    | group members =>
      rw [item_group, Node.members_group, List.map_flatMap]
      show (members.map item).flatMap (·.terms) = _
      rw [List.flatMap_map]
      exact List.flatMap_congr ih
    | seq kind nodes => cases kind <;> rfl
    | _ => rfl

/-- Pairing the items is pairing the nodes. -/
theorem pairsOf_map_item (nodes : List Node) :
    pairsOf (nodes.map item) = (Node.entriesOf nodes).map Pair.of := by
  fun_induction Node.entriesOf nodes with
  | case1 => rfl
  | case2 key => rfl
  | case3 key value rest ih => rw [List.map_cons, List.map_cons, pairsOf, ih]; rfl

/-! ### Sides of a pair -/

theorem flatten_eq_flatMap (values : List Value) :
    Value.flattenAll values = values.flatMap Value.flatten := by
  induction values with
  | nil => rfl
  | cons value rest ih => rw [Value.flattenAll, ih, List.flatMap_cons]

/-- What was lowered is flattened by dissolving groups. -/
theorem flatten_toValue (lowered : Lowered) :
    lowered.toValue.flatten = lowered.nodes.flatMap Node.members := by
  cases lowered with
  | single node => rw [Lowered.nodes, List.flatMap_singleton]; rfl
  | splice nodes =>
    show Value.flattenAll (nodes.map .node) = _
    rw [flatten_eq_flatMap, List.flatMap_map]
    rfl

/-- A group on a side is lowered member by member. -/
theorem sideNodes_group (members : List Node) :
    (Node.group members).sideNodes =
      members.flatMap fun member ↦ member.lower.nodes.flatMap Node.members := by
  rw [Node.sideNodes, item_group]
  show Value.flattenAll ((members.map item).map fun item ↦ item.lowered.toValue) = _
  rw [flatten_eq_flatMap, List.flatMap_map, List.flatMap_map]
  exact List.flatMap_congr fun member _ ↦ flatten_toValue _

theorem item_side {node : Node} (h : node.isGroup = false) :
    (item node).side = node.lower.toValue := by
  cases node with
  | group members => cases h
  | seq kind nodes => cases kind <;> rfl
  | _ => rfl

/-- A side that is no group has the nodes of its lowered form. -/
theorem sideNodes_of_not_group {node : Node} (h : node.isGroup = false) :
    node.sideNodes = node.lower.nodes.flatMap Node.members := by
  rw [Node.sideNodes, item_side h, flatten_toValue]

/-! ### Pairs -/

theorem isLet_pair (entry : Node.Entry) : (Pair.of entry).isLet = entry.isLet :=
  congrArg (fun node : Node ↦ Node.Entry.isLet ⟨node, none⟩) (item_node entry.key)

/-- The terms of a `let` pair are those of its entry, without the word `let`. -/
theorem terms_pair (entry : Node.Entry) :
    (Pair.of entry).terms = (entry.terms.filter (!·.isSymbol "let")).map Term.of := by
  obtain ⟨key, value⟩ := entry
  have hvalue : ((value.map item).map Item.terms).getD [] =
      (value.toList.flatMap Node.members).map Term.of := by
    cases value with
    | none => rfl
    | some node => rw [Option.toList_some, List.flatMap_singleton, ← item_terms]; rfl
  rw [Pair.terms, Pair.of, hvalue, item_terms, ← List.map_append, List.filter_map]
  rfl

/-- Only a text node lowers to a text node as one side of a pair. -/
theorem eq_text_of_item_side {node : Node} {kind : TextKind} {content : String}
    (h : (item node).side = .node (.text kind content)) : node = .text kind content := by
  cases node with
  | seq seqKind nodes => cases seqKind <;> cases h
  | group members => cases h
  | _ => exact Value.node.inj h

theorem item_side_ne_absent (node : Node) : (item node).side ≠ .absent := by
  cases node with
  | seq kind nodes => cases kind <;> exact nofun
  | _ => exact nofun

/-- The forms of a pair are those of its entry. -/
theorem forms_pair (entry : Node.Entry) : (Pair.of entry).forms = entry.forms := by
  obtain ⟨key, value⟩ := entry
  have hvalue : (((value.map item).map Item.side).getD .absent).flatten =
      value.toList.flatMap Node.sideNodes := by
    cases value with
    | none => rfl
    | some node => rw [Option.toList_some, List.flatMap_singleton]; rfl
  show (Value.call (item key).side (((value.map item).map Item.side).getD .absent)).flatten = _
  simp only [Node.Entry.forms]
  split
  · exact hvalue
  · rfl
  · next harrow hstring =>
    rw [Value.call]
    · show [Node.list (Value.flattenAll [(item key).side, _])] = _
      rw [flatten_eq_flatMap, List.flatMap_cons, List.flatMap_singleton, hvalue]
      rfl
    · exact fun h ↦ harrow (eq_text_of_item_side h)
    · intro content hkey habsent
      refine hstring content (eq_text_of_item_side hkey) ?_
      cases value with
      | none => rfl
      | some node => exact absurd habsent (item_side_ne_absent node)

/-- A binding is collected with those right before it. -/
theorem pairForms_cons_let {entry : Node.Entry} (h : entry.isLet = true)
    (lets : Option (List Term)) (pairs : List Pair) :
    pairForms lets (Pair.of entry :: pairs) =
      pairForms (some (lets.getD [] ++ (entry.terms.filter (!·.isSymbol "let")).map Term.of))
        pairs := by
  rw [pairForms, isLet_pair, if_pos h, terms_pair]

/-- Any other entry closes the group of bindings before it, around all that follows. -/
theorem pairForms_cons_of_not_let {entry : Node.Entry} (h : entry.isLet = false)
    (lets : Option (List Term)) (pairs : List Pair) :
    pairForms lets (Pair.of entry :: pairs) = close lets (entry.forms ++ pairForms none pairs) := by
  rw [pairForms, isLet_pair, if_neg (Bool.not_eq_true _ ▸ h), forms_pair]

/-! ### Lowering -/

/-- A list is lowered item by item, and splices are joined into it. -/
theorem lower_list (nodes : List Node) :
    (Node.list nodes).lower = .single (.list (nodes.flatMap (·.lower.nodes))) := by
  show Lowered.single (.list (listItems (items nodes))) = _
  rw [listItems, items_eq_map, List.flatMap_map]
  rfl

/-- A block is lowered item by item too, without its arrows, and is a splice itself. -/
theorem lower_forms (nodes : List Node) :
    (Node.seq .forms nodes).lower =
      .splice ((nodes.filter (·.lower != .single (.sym "=>"))).flatMap (·.lower.nodes)) := by
  show Lowered.splice (blockForms (items nodes)) = _
  rw [blockForms, items_eq_map, List.filter_map, List.flatMap_map]
  rfl

theorem lower_pairs (nodes : List Node) :
    (Node.seq .pairs nodes).lower = .splice (Node.mappingForms nodes) :=
  rfl

/-- The forms of a mapping come from its entries, with no bindings collected at first. -/
theorem mappingForms_eq (nodes : List Node) :
    Node.mappingForms nodes = pairForms none ((Node.entriesOf nodes).map Pair.of) := by
  rw [Node.mappingForms, items_eq_map, pairsOf_map_item]

/-- Entries that are no `let` entries have their forms apart from whatever comes behind them. -/
theorem pairForms_append {entries : List Node.Entry}
    (hlets : ∀ entry ∈ entries, entry.isLet = false)
    (pairs : List Pair) :
    pairForms none (entries.map Pair.of ++ pairs) =
      pairForms none (entries.map Pair.of) ++ pairForms none pairs := by
  induction entries with
  | nil => rfl
  | cons entry rest ih =>
    obtain ⟨hentry, hrest⟩ := List.forall_mem_cons.1 hlets
    rw [List.map_cons, List.cons_append, pairForms_cons_of_not_let hentry,
      pairForms_cons_of_not_let hentry, ih hrest, close, close, List.append_assoc]

/-- A mapping that starts with whole entries, none of them a `let` entry, is lowered part by
part. -/
theorem mappingForms_append {items : List Node} (heven : items.length % 2 = 0)
    (hlets : ∀ entry ∈ Node.entriesOf items, entry.isLet = false) (more : List Node) :
    Node.mappingForms (items ++ more) = Node.mappingForms items ++ Node.mappingForms more := by
  rw [mappingForms_eq, mappingForms_eq, mappingForms_eq, Node.entriesOf_append heven,
    List.map_append,
    pairForms_append hlets]

end Lowering

end ScriptForms

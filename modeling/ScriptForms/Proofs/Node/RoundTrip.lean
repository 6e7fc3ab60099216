import ScriptForms.Proofs.Except
import ScriptForms.Proofs.Node.Subnodes
import ScriptForms.Node.Json

/-!
# Writing nodes as JSON and reading them back

`Node.toJson` writes every node, groups and provisional nodes included, and `Node.ofJson` reads each
of these values as the node that it was written for (`ofJson_toJson`). Reading takes more spellings
than writing produces: bare tags, tags in lower case, numbers and truth values in the place of a
text, and contents that do not matter. So a value that can be read has a normal form, what is
written for the node that it is read as, and writing and reading again change neither.
-/

namespace ScriptForms

/-! ### Tags -/

theorem TextKind.ofName?_tag (kind : TextKind) : Tag.ofName? kind.tag = some (.text kind) := by
  cases kind <;> rfl

theorem SeqKind.ofName?_tag (kind : SeqKind) : Tag.ofName? kind.tag = some (.seq kind) := by
  cases kind <;> rfl

/-- `normal` is the normal form of `raw`: both are read as the same node, and `normal` is what is
written for it. -/
structure Json.IsNormalForm (normal raw : Json) : Prop where
  same_node : Node.ofJson normal = Node.ofJson raw
  written : (Node.ofJson normal).map Node.toJson = .ok normal

namespace Node

/-! ### Equations of reading -/

theorem ofJson_text_entry (kind : TextKind) (content : String) :
    ofJson (.obj [(kind.tag, .str content)]) = .ok (text kind content) := by
  show ofEntry kind.tag (.str content) = _
  rw [ofEntry, kind.ofName?_tag]
  rfl

/-- A tagged array is read item by item. -/
theorem ofJson_seq_entry (kind : SeqKind) (items : List Json) :
    ofJson (.obj [(kind.tag, .arr items)]) = (ofJsonItems items).map (seq kind) := by
  rw [ofJson, kind.ofName?_tag]

theorem ofJsonItems_cons {item : Json} {rest : List Json} {node : Node} {nodes : List Node}
    (hitem : ofJson item = .ok node) (hrest : ofJsonItems rest = .ok nodes) :
    ofJsonItems (item :: rest) = .ok (node :: nodes) := by
  rw [ofJsonItems, hitem, hrest]
  rfl

/-! ### Round trips -/

/-- Items that are read back one by one are read back together. -/
theorem ofJsonItems_toJsonItems {items : List Node}
    (h : ∀ item ∈ items, ofJson item.toJson = .ok item) :
    ofJsonItems (toJsonItems items) = .ok items := by
  induction items with
  | nil => rfl
  | cons item rest ih =>
    obtain ⟨hitem, hrest⟩ := List.forall_mem_cons.1 h
    exact ofJsonItems_cons hitem (ih hrest)

/-- What is written for a node is read as that node. -/
theorem ofJson_toJson (node : Node) : ofJson node.toJson = .ok node := by
  induction node using inductionOn with
  | step node ih =>
    cases node with
    | empty => rfl
    | nil => rfl
    | bool value => rfl
    | text kind content => exact ofJson_text_entry kind content
    | seq kind items =>
      have hitems : ofJsonItems (toJsonItems items) = .ok items := ofJsonItems_toJsonItems ih
      rw [toJson, ofJson_seq_entry, hitems]
      rfl
    | group items =>
      have hitems : ofJsonItems (toJsonItems items) = .ok items := ofJsonItems_toJsonItems ih
      rw [toJson, ofJson, hitems]
      rfl

/-- **Writing and reading are inverse.** Every node is written as a value that is read as that node,
and what is written for the node that a value is read as is the normal form of the value. -/
theorem toJson_is_read_back_and_normal :
    (∀ node : Node, ofJson node.toJson = .ok node) ∧
      ∀ (raw : Json) (node : Node), ofJson raw = .ok node → Json.IsNormalForm node.toJson raw := by
  refine ⟨ofJson_toJson, fun raw node hraw ↦ ⟨?_, ?_⟩⟩
  · rw [ofJson_toJson, hraw]
  · rw [ofJson_toJson]
    rfl

/-- A value in spellings that are never written: a tag in lower case and a bare one, contents that
do not matter, and numbers and a truth value in the place of texts, some of them in a group. -/
theorem toJson_is_read_back_and_normal_spellings :
    let raw : Json := .obj [("pairs", .arr [
      .arr [.obj [("Sym", .str "let")], .obj [("Int", .int (-12))], .arr []],
      .str "Forms", .obj [("Bln", .str "yes")], .obj [("Map", .bool true)],
      .obj [("Tok", .bool false)], .obj [("Flt", .float (.finite false 3 (-1)))],
        .obj [("Nil", .null)]])]
    let node : Node := .seq .pairs [
      .group [.sym "let", .text .integer "-12", .group []],
      .seq .forms [], .bool false, .seq .map [],
      .text .token "false", .text .decimal "1.5", .nil]
    ofJson raw = .ok node ∧ ofJson node.toJson = .ok node ∧ Json.IsNormalForm node.toJson raw := by
  intro raw node
  have hraw : ofJson raw = .ok node := by rfl
  exact ⟨hraw, toJson_is_read_back_and_normal.1 node,
    toJson_is_read_back_and_normal.2 raw node hraw⟩

end Node

end ScriptForms

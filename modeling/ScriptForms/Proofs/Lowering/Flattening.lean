import ScriptForms.Proofs.Lowering.Equations

/-!
# Inlining at every depth and at one level

There are two ways to inline what is nested in a list of values. `flattenAll` goes through groups
and splices at every depth and leaves single nodes; `openSplices` opens the splices that stand
directly in the list and leaves everything else. Lowering uses both, which is safe where they come
to the same.

Opening a splice never changes what flattening gives (`flattenAll_openSplices`). So the two agree on
a list just if flattening has nothing to do behind the opening, that is, if only single nodes are
left then (`map_flattenAll_eq_self_iff`). In terms of the list itself this is `flatten_laws`.
-/

namespace ScriptForms

namespace Value

/-- Whether several values stand in the place of one: a group of values, or a group that came as a
node. -/
def isGroup : Value → Bool
  | node n => n.isGroup
  | group _ => true
  | _ => false

/-- Whether the value is a node that stands for itself. -/
def isSingle : Value → Bool
  | node n => !n.isGroup
  | _ => false

/-- The values that take the place of one value in a list whose splices are opened. -/
def opened : Value → List Value
  | splice items => items
  | value => [value]

theorem openSplices_eq_flatMap (values : List Value) : openSplices values = values.flatMap opened :=
  rfl

/-! ### Flattening -/

theorem flattenAll_append (first second : List Value) :
    flattenAll (first ++ second) = flattenAll first ++ flattenAll second := by
  simp only [Lowering.flatten_eq_flatMap, List.flatMap_append]

mutual

/-- The same for a single value, by recursion on both at once. -/
theorem isGroup_of_mem_flatten : ∀ value : Value, ∀ n ∈ value.flatten, n.isGroup = false
  | absent => List.forall_mem_nil _
  | node _ => fun _ ↦ Node.isGroup_of_mem_members
  | group items => isGroup_of_mem_flattenAll items
  | splice items => isGroup_of_mem_flattenAll items

/-- Flattening leaves single nodes only. -/
theorem isGroup_of_mem_flattenAll :
    ∀ values : List Value, ∀ n ∈ flattenAll values, n.isGroup = false
  | [] => List.forall_mem_nil _
  | value :: rest => List.forall_mem_append.2
    ⟨isGroup_of_mem_flatten value, isGroup_of_mem_flattenAll rest⟩

end

/-- A single value is a node that is no group. -/
theorem exists_eq_node_of_isSingle {value : Value} (h : value.isSingle = true) :
    ∃ n : Node, n.isGroup = false ∧ value = node n := by
  cases value with
  | node n => exact ⟨n, by simpa [isSingle] using h, rfl⟩
  | _ => cases h

/-- Flattening has nothing to do just if all values are single nodes. -/
theorem map_flattenAll_eq_self_iff {values : List Value} :
    (flattenAll values).map node = values ↔ ∀ value ∈ values, value.isSingle = true := by
  constructor
  · intro h value hvalue
    rw [← h] at hvalue
    obtain ⟨n, hn, rfl⟩ := List.mem_map.1 hvalue
    rw [isSingle, isGroup_of_mem_flattenAll values n hn]
    rfl
  · intro h
    induction values with
    | nil => rfl
    | cons value rest ih =>
      obtain ⟨hvalue, hrest⟩ := List.forall_mem_cons.1 h
      obtain ⟨n, hn, rfl⟩ := exists_eq_node_of_isSingle hvalue
      show (n.members ++ flattenAll rest).map node = node n :: rest
      rw [Node.members_of_not_group hn, List.singleton_append, List.map_cons, ih hrest]

/-- Single nodes are flat already. -/
theorem flattenAll_map_node {nodes : List Node} (h : ∀ n ∈ nodes, n.isGroup = false) :
    flattenAll (nodes.map node) = nodes := by
  have hsingle : ∀ value ∈ nodes.map node, value.isSingle = true := by
    refine List.forall_mem_map.2 fun n hn ↦ ?_
    rw [isSingle, h n hn]
    rfl
  have hinjective : Function.Injective node := fun _ _ ↦ node.inj
  exact hinjective.list_map (map_flattenAll_eq_self_iff.2 hsingle)

/-! ### Opening splices -/

/-- Opening a splice first makes no difference to flattening. -/
theorem flatMap_flatten_opened (value : Value) : value.opened.flatMap flatten = value.flatten := by
  cases value with
  | splice items => exact (Lowering.flatten_eq_flatMap items).symm
  | _ => exact List.flatMap_singleton _ _

/-- Opening the direct splices does not change what flattening gives. -/
theorem flattenAll_openSplices (values : List Value) :
    flattenAll (openSplices values) = flattenAll values := by
  rw [Lowering.flatten_eq_flatMap, Lowering.flatten_eq_flatMap, openSplices_eq_flatMap,
    List.flatMap_assoc]
  exact List.flatMap_congr fun value _ ↦ flatMap_flatten_opened value

/-- What takes the place of a value is single nodes just if the value is not absent, no group, and
no splice that holds anything else. -/
theorem forall_mem_opened_iff (value : Value) :
    (∀ item ∈ value.opened, item.isSingle = true) ↔
      value ≠ absent ∧ value.isGroup = false ∧
        ∀ items, value = splice items → ∀ item ∈ items, item.isSingle = true := by
  cases value with
  | absent => simp [opened, isSingle]
  | node n => simp [opened, isSingle, isGroup]
  | group items => simp [opened, isSingle, isGroup]
  | splice items => simp [opened, isGroup]

/-- Opening the direct splices flattens a list just if nothing else is nested in it. -/
theorem openSplices_eq_map_flattenAll_iff {values : List Value} :
    openSplices values = (flattenAll values).map node ↔
      absent ∉ values ∧ (∀ value ∈ values, value.isGroup = false) ∧
        ∀ items, splice items ∈ values → ∀ item ∈ items, item.isSingle = true := by
  rw [← flattenAll_openSplices values, eq_comm, map_flattenAll_eq_self_iff, openSplices_eq_flatMap,
    List.forall_mem_flatMap]
  constructor
  · intro h
    have hvalues value hvalue := (forall_mem_opened_iff value).1 (h value hvalue)
    exact ⟨fun habsent ↦ (hvalues absent habsent).1 rfl, fun value hvalue ↦
      (hvalues value hvalue).2.1,
      fun items hitems ↦ (hvalues _ hitems).2.2 items rfl⟩
  · rintro ⟨habsent, hgroups, hsplices⟩ value hvalue
    refine (forall_mem_opened_iff value).2 ⟨?_, hgroups value hvalue, ?_⟩
    · rintro rfl
      exact habsent hvalue
    · rintro items rfl
      exact hsplices items hvalue

/-- **Laws of flattening.** Flattening goes part by part, leaves single nodes and has nothing to do
on these; it does not matter to it whether direct splices are opened first. Opening the direct
splices is all of flattening if and only if nothing in the list is absent or a group, and the
splices in it hold single nodes. -/
theorem flatten_laws (first second values : List Value) :
    flattenAll (first ++ second) = flattenAll first ++ flattenAll second ∧
    (∀ n ∈ flattenAll values, n.isGroup = false) ∧
    flattenAll ((flattenAll values).map node) = flattenAll values ∧
    flattenAll (openSplices values) = flattenAll values ∧
    (openSplices values = (flattenAll values).map node ↔
      absent ∉ values ∧ (∀ value ∈ values, value.isGroup = false) ∧
        ∀ items, splice items ∈ values → ∀ item ∈ items, item.isSingle = true) := by
  have hsingle := isGroup_of_mem_flattenAll values
  exact ⟨flattenAll_append first second, hsingle, flattenAll_map_node hsingle,
    flattenAll_openSplices values, openSplices_eq_map_flattenAll_iff⟩

end Value

end ScriptForms

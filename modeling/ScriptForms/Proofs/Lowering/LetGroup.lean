import ScriptForms.Proofs.Lowering.Idempotence

/-!
# Let groups

A run of `let` entries in a mapping becomes one `let` form, and all entries behind the run become
its body. The entries of the run are taken apart into single terms, which are put together again by
twos, so one term too many or too few would shift every binding behind it. A `LetBinding` is an
entry that gives one name and one value, in either of its two spellings, and over such entries the
terms come out as names and values in turn (`pairForms_letBindings`). What a binding holds for its
value is one node in any case (`Node.held`, `isGroup_held`), so the binding vector alternates as
well.
-/

namespace ScriptForms

namespace Node

/-- What a binding holds for a value. A list is lowered; a block is its one statement, nil if it has
none, and a `do` call of several; a mapping is its first form, in a list of its own unless it is
one. Everything else stands as it is. -/
def held : Node → Node
  | list items => list (items.flatMap (·.lower.nodes))
  | seq .forms items =>
    match (seq .forms items).lower.nodes with
    | [] => nil
    | [statement] => statement
    | statements => list (sym "do" :: statements)
  | seq .pairs items =>
    match mappingForms items with
    | [] => list []
    | list call :: _ => list call
    | form :: _ => list [form]
  | value => value

theorem GroupsOnSides.isGroup {node : Node} (h : node.GroupsOnSides) : node.isGroup = false := by
  cases h <;> rfl

/-- Where the name of a binding stands. -/
inductive LetSpelling where
  /-- In the key, which is the group of the word `let` and the name. -/
  | key
  /-- In the value, which is the group of the name and what it is bound to; the key is the word
  `let`. -/
  | value
  deriving DecidableEq

/-- An entry that binds one name to one value. Neither is the word `let` again, and both are single
nodes; inside the value, groups stand only on the sides of entries. -/
structure LetBinding where
  spelling : LetSpelling
  name : Node
  value : Node
  isGroup_name : name.isGroup = false
  name_ne_let : name ≠ .sym "let"
  value_ne_let : value ≠ .sym "let"
  groupsOnSides_value : value.GroupsOnSides

namespace LetBinding

/-- The entry as it is written. -/
def entry (binding : LetBinding) : Entry :=
  match binding.spelling with
  | .key => ⟨.group [.sym "let", binding.name], some binding.value⟩
  | .value => ⟨.sym "let", some (.group [binding.name, binding.value])⟩

/-- What a binding adds to the vector of its `let` form. -/
def slots (binding : LetBinding) : List Node :=
  [binding.name, binding.value.held]

/-- Both spellings of a binding are entries for bindings. -/
theorem isLet_entry (binding : LetBinding) : binding.entry.isLet = true := by
  unfold entry
  split <;> rfl

/-- Behind the word `let` an entry has its name and its value as terms. -/
theorem terms_entry (binding : LetBinding) :
    binding.entry.terms = [.sym "let", binding.name, binding.value] := by
  have hname := members_of_not_group binding.isGroup_name
  have hvalue := members_of_not_group binding.groupsOnSides_value.isGroup
  unfold entry
  split
  · show (Node.group [.sym "let", binding.name]).members ++ (binding.value.members ++ []) = _
    rw [members_group, List.flatMap_cons, List.flatMap_singleton, hname, hvalue]
    rfl
  · show (Node.sym "let").members ++ ((Node.group [binding.name, binding.value]).members ++ []) = _
    rw [members_group, List.flatMap_cons, List.flatMap_singleton, hname, hvalue]
    rfl

/-- The vector of a let group has two places for each binding, its name in front of what it
holds. -/
theorem length_and_places_slots (group : List LetBinding) :
    (group.flatMap slots).length = 2 * group.length ∧
      ∀ i binding, group[i]? = some binding →
        (group.flatMap slots)[2 * i]? = some binding.name ∧
          (group.flatMap slots)[2 * i + 1]? = some binding.value.held := by
  induction group with
  | nil => exact ⟨rfl, fun i binding h ↦ by cases h⟩
  | cons first rest ih =>
    obtain ⟨hlength, hplaces⟩ := ih
    have hslots : (first :: rest).flatMap slots =
        first.name :: first.value.held :: rest.flatMap slots := rfl
    rw [hslots]
    refine ⟨?_, fun i binding h ↦ ?_⟩
    · simp only [List.length_cons, hlength]
      omega
    · cases i with
      | zero =>
        cases h
        exact ⟨rfl, rfl⟩
      | succ i => exact hplaces i binding h

end LetBinding

end Node

namespace Lowering

open Node

/-! ### Held values -/

/-- What a term is bound to is what a binding holds. -/
theorem bound_eq_held {value : Node} (h : value.GroupsOnSides) :
    (Term.of value).bound = value.held := by
  have hlowered := isLowered_of_mem_lower h
  cases h with
  | list =>
    show oneNode (Node.list _).lower.nodes = _
    rw [lower_list]
    rfl
  | @pairs items _ =>
    show oneCall (mappingForms items) = _
    rw [held]
    cases hforms : mappingForms items with
    | nil => rfl
    | cons form rest =>
      -- the members of the form are the form alone
      have hmem : form ∈ (Node.seq .pairs items).lower.nodes := by
        rw [lower_pairs, Lowered.nodes, hforms]
        exact List.mem_cons_self
      have hsingle := (hlowered form hmem).isGroup
      cases form with
      | group members => cases hsingle
      | seq kind items => cases kind <;> rfl
      | _ => rfl
  | _ => rfl

/-- A binding holds a single node. -/
theorem isGroup_held {value : Node} (h : value.GroupsOnSides) : value.held.isGroup = false := by
  have hlowered := isLowered_of_mem_lower h
  cases h with
  | forms =>
    rw [held]
    split
    · rfl
    · next statement hstatement =>
      rw [hstatement] at hlowered
      exact (hlowered statement List.mem_cons_self).isGroup
    · rfl
  | pairs =>
    rw [held]
    split <;> rfl
  | _ => rfl

/-! ### The run of bindings -/

/-- The terms of a binding: its name and its value. -/
def letTerms (binding : LetBinding) : List Term :=
  [.of binding.name, .of binding.value]

/-- The terms of a binding are collected behind those before it. -/
theorem pairForms_cons_letBinding (binding : LetBinding) (lets : Option (List Term))
    (pairs : List Pair) :
    pairForms lets (Pair.of binding.entry :: pairs) =
      pairForms (some (lets.getD [] ++ letTerms binding)) pairs := by
  have hname := isSymbol_eq_false binding.name_ne_let
  have hvalue := isSymbol_eq_false binding.value_ne_let
  have hterms : binding.entry.terms.filter (!·.isSymbol "let") = [binding.name, binding.value] := by
    rw [binding.terms_entry]
    simp [hname, hvalue, isSymbol_iff.2]
  rw [pairForms_cons_let binding.isLet_entry, hterms]
  rfl

/-- Over a run of bindings, names and values are collected in turn. -/
theorem pairForms_letBindings (group : List LetBinding) (collected : List Term)
    (pairs : List Pair) :
    pairForms (some collected) ((group.map LetBinding.entry).map Pair.of ++ pairs) =
      pairForms (some (collected ++ group.flatMap letTerms)) pairs := by
  induction group generalizing collected with
  | nil => rw [List.flatMap_nil, List.append_nil]; rfl
  | cons binding rest ih =>
    rw [List.map_cons, List.map_cons, List.cons_append, pairForms_cons_letBinding, ih,
      Option.getD_some, List.flatMap_cons, List.append_assoc]

/-- The run ends in front of an entry that is no `let` entry, and whatever stands there is its
body. -/
theorem pairForms_close {entries : List Entry}
    (hhead : ∀ entry ∈ entries.head?, entry.isLet = false)
    (collected : List Term) :
    pairForms (some collected) (entries.map Pair.of) =
      close (some collected) (pairForms none (entries.map Pair.of)) := by
  cases entries with
  | nil => rfl
  | cons entry rest =>
    have hentry : entry.isLet = false := hhead entry rfl
    rw [List.map_cons, pairForms_cons_of_not_let hentry,
      pairForms_cons_of_not_let hentry, close, close]

/-- The vector of a run of bindings. -/
theorem bindings_letTerms (group : List LetBinding) :
    bindings (group.flatMap letTerms) = group.flatMap LetBinding.slots := by
  induction group with
  | nil => rfl
  | cons binding rest ih =>
    have hgroups := binding.groupsOnSides_value
    show binding.name :: ((Term.of binding.value).bound.members ++
      bindings (rest.flatMap letTerms)) = _
    rw [ih, bound_eq_held hgroups, members_of_not_group (isGroup_held hgroups)]
    rfl

/-- The run as a whole: one `let` form around what stands behind it. -/
theorem pairForms_let_group {group : List LetBinding} (hgroup : group ≠ []) {after : List Entry}
    (hafter : ∀ entry ∈ after.head?, entry.isLet = false) :
    pairForms none ((group.map LetBinding.entry ++ after).map Pair.of) =
      [.list (.sym "let" :: .vector (group.flatMap LetBinding.slots) ::
        pairForms none (after.map Pair.of))] := by
  obtain ⟨first, rest, rfl⟩ := List.exists_cons_of_ne_nil hgroup
  have hcollected : ((none : Option (List Term)).getD [] ++ letTerms first) ++
    rest.flatMap letTerms =
      (first :: rest).flatMap letTerms := by
    rw [List.flatMap_cons]
    rfl
  rw [List.map_append, List.map_cons, List.map_cons, List.cons_append, pairForms_cons_letBinding,
    pairForms_letBindings, pairForms_close hafter, hcollected, close, bindings_letTerms]

/-- **Let groups.** Let the entries of a mapping be a run of bindings, with entries in front of it
that are no `let` entries, and behind it nothing or first of all an entry that is none. Then the
mapping has the forms of what stands in front, and one more: a `let` form whose body is what stands
behind, and whose vector alternates the names, in their order, with one node for each value. -/
theorem mappingForms_let_group {items : List Node} {before after : List Entry}
    {group : List LetBinding}
    (hitems : entriesOf items = before ++ group.map LetBinding.entry ++ after)
    (hbefore : ∀ entry ∈ before, entry.isLet = false) (hgroup : group ≠ [])
    (hafter : ∀ entry ∈ after.head?, entry.isLet = false) :
    mappingForms items = mappingForms (before.flatMap Entry.sides) ++
      [.list (.sym "let" :: .vector (group.flatMap LetBinding.slots) ::
        mappingForms (after.flatMap Entry.sides))] ∧
    (group.flatMap LetBinding.slots).length = 2 * group.length ∧
    ∀ i binding, group[i]? = some binding →
      (group.flatMap LetBinding.slots)[2 * i]? = some binding.name ∧
        (group.flatMap LetBinding.slots)[2 * i + 1]? = some binding.value.held ∧
          binding.value.held.isGroup = false := by
  obtain ⟨hlength, hplaces⟩ := LetBinding.length_and_places_slots group
  refine ⟨?_, hlength, fun i binding hbinding ↦ ?_⟩
  · have hafterSides := (entriesOf_flatMap_sides hitems).2
    rw [List.append_assoc] at hitems
    have hbeforeSides := (entriesOf_flatMap_sides hitems).1
    rw [mappingForms_eq, mappingForms_eq, mappingForms_eq, hitems, hbeforeSides, hafterSides,
      List.map_append, pairForms_append hbefore, pairForms_let_group hgroup hafter]
  · obtain ⟨hname, hvalue⟩ := hplaces i binding hbinding
    exact ⟨hname, hvalue, isGroup_held binding.groupsOnSides_value⟩

/-- Both spellings, with a block, a mapping of two forms and a list as values, and another group in
the body. -/
theorem mappingForms_let_group_three :
    let first : LetBinding := ⟨.key, .sym "x", .seq .forms [.sym "p", .sym "=>", .sym "q"],
      rfl, by decide,
      by decide, .of_groups rfl (by decide)⟩
    let second : LetBinding := ⟨.value, .sym "y",
      .seq .pairs [.group [.sym "g", .nil], .sym "x", .sym "k", .nil], rfl, by decide, by decide,
      .of_groups rfl (by decide)⟩
    let third : LetBinding := ⟨.key, .vector [.sym "u", .sym "v"],
      .list [.sym "m", .seq .forms [.nil, .nil]],
      rfl, by decide, by decide, .of_groups rfl (by decide)⟩
    let items : List Node := [.sym "f", .sym "a",
      .group [.sym "let", first.name], first.value, .sym "let", .group [second.name, second.value],
      .group [.sym "let", third.name], third.value,
      .sym "h", .sym "y", .sym "let", .group [.sym "z", .nil], .sym "z"]
    entriesOf items = [⟨.sym "f", some (.sym "a")⟩] ++
      [first, second, third].map LetBinding.entry ++
        [⟨.sym "h", some (.sym "y")⟩, ⟨.sym "let", some (.group [.sym "z", .nil])⟩,
          ⟨.sym "z", none⟩] ∧
      mappingForms items = [.list [.sym "f", .sym "a"],
        .list [.sym "let",
          .vector [.sym "x", .list [.sym "do", .sym "p", .sym "q"],
            .sym "y", .list [.sym "g", .nil, .sym "x"],
            .vector [.sym "u", .sym "v"], .list [.sym "m", .nil, .nil]],
          .list [.sym "h", .sym "y"],
          .list [.sym "let", .vector [.sym "z", .nil], .list [.sym "z"]]]] := by
  intro first second third items
  have hitems : entriesOf items =
      [⟨.sym "f", some (.sym "a")⟩] ++ [first, second, third].map LetBinding.entry ++
        [⟨.sym "h", some (.sym "y")⟩, ⟨.sym "let", some (.group [.sym "z", .nil])⟩,
          ⟨.sym "z", none⟩] := rfl
  obtain ⟨hforms, -⟩ := mappingForms_let_group hitems (by decide) (List.cons_ne_nil _ _) (by decide)
  exact ⟨hitems, hforms⟩

end Lowering

end ScriptForms

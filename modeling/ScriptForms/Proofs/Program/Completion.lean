import Mathlib.Data.List.Basic
import ScriptForms.Compile
import ScriptForms.Proofs.Node.Subnodes

/-!
# Completing a program

Two passes complete a lowered program. This module says exactly what they change, and that what the
first one adds is enough.

* `forms_completed`: the forms of the completed program are those of the program, with at most one
  declaration at `declarationIndex` and the call of `main` behind them all if a form defines `main`.
* The first pass walks through the program. A walk is a fold over the nodes in the order in which
  they are met (`visitAll_eq_meetAll`), so what it collects is read off by induction on that list: a
  function is known once a definition of it was met (`mem_known_meetAll`), and a mention of a
  function that is not known is recorded (`mem_early_or_known`).
* Hence no function is mentioned ahead of its declaration and its definitions, a leading `ns` form
  aside.
-/

namespace ScriptForms

namespace Node

mutual

/-- The nodes that a walk meets, each before its items. A walk does not enter groups. -/
def walk : Node → List Node
  | seq kind items => seq kind items :: walkAll items
  | node => [node]

/-- The nodes that a walk through several nodes meets. -/
def walkAll : List Node → List Node
  | [] => []
  | node :: rest => walk node ++ walkAll rest

end

theorem walkAll_eq_flatMap (nodes : List Node) : walkAll nodes = nodes.flatMap walk := by
  induction nodes with
  | nil => rfl
  | cons node rest ih => rw [walkAll, ih, List.flatMap_cons]

theorem self_mem_walk (node : Node) : node ∈ node.walk := by
  cases node <;> exact List.mem_cons_self

theorem mem_walkAll {node : Node} {nodes : List Node} (h : node ∈ nodes) :
    node ∈ walkAll nodes := by
  rw [walkAll_eq_flatMap]
  exact List.mem_flatMap.2 ⟨node, h, node.self_mem_walk⟩

theorem walkAll_append (nodes more : List Node) :
    walkAll (nodes ++ more) = walkAll nodes ++ walkAll more := by
  rw [walkAll_eq_flatMap, List.flatMap_append, ← walkAll_eq_flatMap, ← walkAll_eq_flatMap]

end Node

namespace Program

/-! ### The forms of a finished program -/

/-- The place of a declaration among the forms: behind a leading `ns` form, or in front. -/
def declarationIndex : List Node → Nat
  | [] => 0
  | first :: _ => if first.headSymbol? = some "ns" then 1 else 0

/-- The declaration `(declare …)` of the given functions, if there are any. -/
def declarations (names : List String) : List Node :=
  if names = [] then [] else [.list (.sym "declare" :: names.map .sym)]

/-- The call `(apply main ARGV)`, if one of the forms defines `main`. -/
def mainCalls (forms : List Node) : List Node :=
  if ∃ form ∈ forms, form.functionName? = some "main" then
    [.list [.sym "apply", .sym "main", .sym "ARGV"]]
  else []

theorem declarations_cons (name : String) (rest : List String) :
    declarations (name :: rest) = [.list (.sym "declare" :: (name :: rest).map .sym)] :=
  if_neg (List.cons_ne_nil name rest)

/-- A form that is put ahead goes to the place of declarations. -/
theorem insertAhead_eq (form : Node) (forms : List Node) :
    insertAhead form forms =
      forms.take (declarationIndex forms) ++ form :: forms.drop (declarationIndex forms) := by
  cases forms with
  | nil => rfl
  | cons first rest =>
    rw [insertAhead, declarationIndex]
    split <;> rfl

theorem length_take_declarationIndex (forms : List Node) :
    (forms.take (declarationIndex forms)).length = declarationIndex forms := by
  cases forms with
  | nil => rfl
  | cons first rest =>
    rw [declarationIndex]
    split <;> rfl

/-- The first pass adds the declaration, if there is something to declare. -/
theorem forms_declareForward (program : Program) :
    program.declareForward.forms =
      program.forms.take (declarationIndex program.forms) ++ declarations program.undeclared ++
        program.forms.drop (declarationIndex program.forms) := by
  rw [declareForward]
  cases program.undeclared with
  | nil =>
    show program.forms = _ ++ [] ++ _
    rw [List.append_nil, List.take_append_drop]
  | cons name rest =>
    show insertAhead (.list (.sym "declare" :: (name :: rest).map .sym)) program.forms = _
    rw [insertAhead_eq, declarations_cons, List.append_assoc]
    rfl

/-- A declaration defines nothing. -/
theorem functionName_of_mem_declarations {names : List String} {form : Node}
    (h : form ∈ declarations names) : form.functionName? = none := by
  cases names with
  | nil => cases h
  | cons name rest =>
    rw [declarations_cons] at h
    rw [List.mem_singleton.1 h]
    rfl

theorem mem_definedNames_iff {name : String} {program : Program} :
    name ∈ program.definedNames ↔ ∃ form ∈ program.forms, form.functionName? = some name :=
  List.mem_filterMap

/-- Declaring functions does not define any. -/
theorem definedNames_declareForward (program : Program) :
    program.declareForward.definedNames = program.definedNames := by
  have hnone : (declarations program.undeclared).filterMap Node.functionName? = [] :=
    List.filterMap_eq_nil_iff.2 fun _ ↦ functionName_of_mem_declarations
  rw [definedNames, forms_declareForward, List.filterMap_append, List.filterMap_append, hnone,
    List.append_nil, ← List.filterMap_append, List.take_append_drop]
  rfl

/-- The second pass adds the call, if `main` is defined. -/
theorem forms_appendMainCall (program : Program) :
    program.appendMainCall.forms = program.forms ++ mainCalls program.forms := by
  have hany : program.forms.any (·.functionName? = some "main") = true ↔
      ∃ form ∈ program.forms, form.functionName? = some "main" := by
    simp only [List.any_eq_true, decide_eq_true_eq]
  rw [appendMainCall, mainCalls]
  by_cases hmain : ∃ form ∈ program.forms, form.functionName? = some "main"
  · rw [if_pos (hany.2 hmain), if_pos hmain]
    rfl
  · rw [if_neg (mt hany.1 hmain), if_neg hmain, List.append_nil]

/-- Calling `main` does not define any function either. -/
theorem definedNames_appendMainCall (program : Program) :
    program.appendMainCall.definedNames = program.definedNames := by
  have hnone : (mainCalls program.forms).filterMap Node.functionName? = [] := by
    rw [mainCalls]
    split <;> rfl
  rw [definedNames, forms_appendMainCall, List.filterMap_append, hnone, List.append_nil]
  rfl

/-- The completed program: the forms in their order, at most one declaration among them, and the
call of `main` at the end. -/
theorem forms_completed (program : Program) :
    program.declareForward.appendMainCall.forms =
      program.forms.take (declarationIndex program.forms) ++ declarations program.undeclared ++
        program.forms.drop (declarationIndex program.forms) ++ mainCalls program.forms := by
  have hmain : mainCalls program.declareForward.forms = mainCalls program.forms := by
    refine if_congr ?_ rfl rfl
    rw [← mem_definedNames_iff, definedNames_declareForward, mem_definedNames_iff]
  rw [forms_appendMainCall, hmain, forms_declareForward]

/-! ### The walk -/

namespace Walk

/-- Meets several nodes, one after the other. -/
def meetAll (names : List String) (nodes : List Node) (walk : Walk) : Walk :=
  nodes.foldl (fun walk node ↦ walk.meet names node) walk

theorem meetAll_append (names : List String) (nodes more : List Node) (walk : Walk) :
    meetAll names (nodes ++ more) walk = meetAll names more (meetAll names nodes walk) :=
  List.foldl_append

/-- Several nodes are visited one by one. -/
theorem visitAll_eq_meetAll_of_forall (names : List String) {nodes : List Node}
    (h : ∀ node ∈ nodes, ∀ walk, visit names node walk = meetAll names node.walk walk)
    (walk : Walk) :
    visitAll names nodes walk = meetAll names (Node.walkAll nodes) walk := by
  induction nodes generalizing walk with
  | nil => rfl
  | cons node rest ih =>
    rw [visitAll, Node.walkAll, meetAll_append, ← h node List.mem_cons_self,
      ih fun node hnode ↦ h node (List.mem_cons_of_mem _ hnode)]

/-- By induction on the node: visiting it is meeting what its walk lists. -/
theorem visit_eq_meetAll (names : List String) (node : Node) (walk : Walk) :
    visit names node walk = meetAll names node.walk walk := by
  induction node using Node.inductionOn generalizing walk with
  | step node ih =>
    cases node with
    | seq kind items =>
      rw [visit, Node.walk]
      exact visitAll_eq_meetAll_of_forall names ih _
    | _ => rfl

/-- Walking is meeting the nodes of the walk one after the other. -/
theorem visitAll_eq_meetAll (names : List String) (nodes : List Node) (walk : Walk) :
    visitAll names nodes walk = meetAll names (Node.walkAll nodes) walk :=
  visitAll_eq_meetAll_of_forall names (fun node _ ↦ visit_eq_meetAll names node) walk

/-- One node makes known what it defines. -/
theorem mem_known_meet {names : List String} {node : Node} {walk : Walk} {name : String} :
    name ∈ (walk.meet names node).known ↔ name ∈ walk.known ∨ node.functionName? = some name := by
  unfold meet
  split
  · next defined hdefined =>
    rw [hdefined, Option.some.injEq, List.mem_cons, or_comm, eq_comm]
  · next hnone =>
    rw [hnone]
    split <;> simp
  · next hnone => simp [hnone]

/-- One node keeps what is recorded. -/
theorem early_subset_meet (names : List String) (node : Node) (walk : Walk) :
    walk.early ⊆ (walk.meet names node).early := by
  unfold meet
  split
  · exact List.Subset.refl _
  · split
    · exact List.subset_append_left _ _
    · exact List.Subset.refl _
  · exact List.Subset.refl _

/-- A mention of a function that is not known is recorded. -/
theorem mem_early_meet_sym {names : List String} {walk : Walk} {name : String}
    (hname : name ∈ names)
    (hknown : name ∉ walk.known) : name ∈ (walk.meet names (.sym name)).early := by
  show name ∈ (if names.contains name && !walk.known.contains name && !walk.early.contains name then
    (⟨walk.known, walk.early ++ [name]⟩ : Walk) else walk).early
  by_cases hearly : name ∈ walk.early
  · exact early_subset_meet names (.sym name) walk hearly
  · rw [if_pos (by simp [hname, hknown, hearly])]
    exact List.mem_append_right _ (List.mem_singleton.2 rfl)

/-- Known in the end is what was known, or defined by a node that was met. -/
theorem mem_known_meetAll {names : List String} {nodes : List Node} {walk : Walk} {name : String} :
    name ∈ (meetAll names nodes walk).known ↔
      name ∈ walk.known ∨ ∃ node ∈ nodes, node.functionName? = some name := by
  induction nodes generalizing walk with
  | nil => simp [meetAll]
  | cons node rest ih =>
    show name ∈ (meetAll names rest (walk.meet names node)).known ↔ _
    rw [ih, mem_known_meet, List.exists_mem_cons_iff, or_assoc]

theorem early_subset_meetAll (names : List String) (nodes : List Node) (walk : Walk) :
    walk.early ⊆ (meetAll names nodes walk).early := by
  induction nodes generalizing walk with
  | nil => exact List.Subset.refl _
  | cons node rest ih => exact List.Subset.trans (early_subset_meet names node walk) (ih _)

/-- Whatever a walk mentions is recorded in the end, or was defined before the mention. -/
theorem mem_early_or_known {names : List String} {before after : List Node} {walk : Walk}
    {name : String} (hname : name ∈ names) :
    name ∈ (meetAll names (before ++ .sym name :: after) walk).early ∨ name ∈ walk.known ∨
      ∃ node ∈ before, node.functionName? = some name := by
  by_cases hknown : name ∈ (meetAll names before walk).known
  · exact .inr (mem_known_meetAll.1 hknown)
  · refine .inl ?_
    rw [meetAll_append]
    exact early_subset_meetAll names after _ (mem_early_meet_sym hname hknown)

end Walk

/-- A function that a top-level form defines is declared ahead, or no mention of it comes before all
its definitions. -/
theorem mem_undeclared_or_defined {program : Program} {before after : List Node} {name : String}
    (hname : name ∈ program.definedNames)
    (hwalk : Node.walkAll program.forms = before ++ .sym name :: after) :
    name ∈ program.undeclared ∨ ∃ node ∈ before, node.functionName? = some name := by
  rw [undeclared, forwardReferences, Walk.visitAll_eq_meetAll, hwalk]
  rcases Walk.mem_early_or_known hname with hearly | hknown | hdefined
  · exact .inl hearly
  · exact absurd hknown List.not_mem_nil
  · exact .inr hdefined

/-! ### Declarations come before mentions -/

/-- The places at which an element of a concatenation may stand. -/
theorem mem_left_or_right {left right before after : List Node} {form : Node}
    (h : left ++ right = before ++ form :: after) :
    (∃ rest, left = before ++ form :: rest) ∨
      ∃ middle, before = left ++ middle ∧ right = middle ++ form :: after := by
  rcases List.append_eq_append_iff.1 h with ⟨middle, hbefore, hright⟩ | ⟨tail, hleft, htail⟩
  · exact .inr ⟨middle, hbefore, hright⟩
  · cases tail with
    | nil => exact .inr ⟨[], by rw [hleft, List.append_nil, List.append_nil], htail.symm⟩
    | cons first rest =>
      cases htail
      exact .inl ⟨rest, hleft⟩

/-- Only a leading `ns` form stands ahead of a declaration. -/
theorem eq_nil_and_headSymbol_of_take {forms before after : List Node} {form : Node}
    (h : forms.take (declarationIndex forms) = before ++ form :: after) :
    before = [] ∧ form.headSymbol? = some "ns" := by
  cases forms with
  | nil => exact absurd h.symm (List.append_ne_nil_of_right_ne_nil _ (List.cons_ne_nil _ _))
  | cons first rest =>
    rw [declarationIndex] at h
    split at h
    · next hns =>
      rcases List.singleton_eq_append_iff.1 (show [first] = before ++ form :: after from h) with
        ⟨rfl, hform⟩ | ⟨-, hform⟩
      · cases hform
        exact ⟨rfl, hns⟩
      · cases hform
    · exact absurd h.symm (List.append_ne_nil_of_right_ne_nil _ (List.cons_ne_nil _ _))

/-- A declaration stands alone, and only if there is something to declare. -/
theorem eq_nil_of_declarations {names : List String} {before after : List Node} {form : Node}
    (h : declarations names = before ++ form :: after) : names ≠ [] ∧ before = [] := by
  cases names with
  | nil => exact absurd h.symm (List.append_ne_nil_of_right_ne_nil _ (List.cons_ne_nil _ _))
  | cons first rest =>
    rw [declarations_cons] at h
    rcases List.singleton_eq_append_iff.1 h with ⟨hnil, -⟩ | ⟨-, hform⟩
    · exact ⟨List.cons_ne_nil _ _, hnil⟩
    · cases hform

/-- What stands behind a declaration of something stands behind its place. -/
theorem declarationIndex_lt_length {forms middle : List Node} {names : List String} {name : String}
    (hname : name ∈ names) :
    declarationIndex forms <
      (forms.take (declarationIndex forms) ++ declarations names ++ middle).length := by
  cases names with
  | nil => cases hname
  | cons first rest =>
    rw [List.length_append, List.length_append, length_take_declarationIndex, declarations_cons,
      List.length_singleton]
    omega

/-- In the lowered forms, a mention of a function that is not declared ahead has a definition before
it or around it. -/
theorem exists_earlier_of_not_undeclared {program : Program} {before after met later : List Node}
    {form : Node} {name : String} (hforms : program.forms = before ++ form :: after)
    (hform : form.walk = met ++ .sym name :: later) (hname : name ∈ program.definedNames)
    (hundeclared : name ∉ program.undeclared) :
    ∃ earlier ∈ Node.walkAll before ++ met, earlier.functionName? = some name := by
  have hwalk : Node.walkAll program.forms =
      (Node.walkAll before ++ met) ++ .sym name :: (later ++ Node.walkAll after) := by
    rw [hforms, Node.walkAll_append, Node.walkAll, hform, List.append_assoc, List.append_assoc,
      List.cons_append]
  exact (mem_undeclared_or_defined hname hwalk).resolve_left hundeclared

/-- In the completed program, a mention of a function that a form defines stands behind a
declaration that names it, or has a definition before it or around it. A leading `ns` form and the
declaration itself are left out. -/
theorem declared_or_defined_of_mention {program : Program} {before after met later : List Node}
    {form : Node} {name : String}
    (hforms : program.declareForward.appendMainCall.forms = before ++ form :: after)
    (hform : form.walk = met ++ .sym name :: later) (hname : name ∈ program.definedNames)
    (hns : ¬(before = [] ∧ form.headSymbol? = some "ns"))
    (hdeclaration :
      ¬(program.undeclared ≠ [] ∧ before.length = declarationIndex program.forms)) :
    (declarationIndex program.forms < before.length ∧ name ∈ program.undeclared) ∨
      ∃ earlier ∈ Node.walkAll before ++ met, earlier.functionName? = some name := by
  rw [forms_completed] at hforms
  rcases mem_left_or_right hforms with ⟨rest, hleft⟩ | ⟨middle, rfl, -⟩
  · rcases mem_left_or_right hleft with ⟨_, hahead⟩ | ⟨middle, rfl, hrest⟩
    · rcases mem_left_or_right hahead with ⟨_, hns'⟩ | ⟨middle, rfl, hdeclared⟩
      · exact absurd (eq_nil_and_headSymbol_of_take hns') hns
      · -- the form is the declaration itself
        obtain ⟨hnames, rfl⟩ := eq_nil_of_declarations hdeclared
        refine absurd ⟨hnames, ?_⟩ hdeclaration
        rw [List.append_nil, length_take_declarationIndex]
    · -- the form is a lowered one behind the declaration
      by_cases hundeclared : name ∈ program.undeclared
      · exact .inl ⟨declarationIndex_lt_length hundeclared, hundeclared⟩
      · have hlowered : program.forms =
            (program.forms.take (declarationIndex program.forms) ++ middle) ++ form :: rest := by
          rw [List.append_assoc, ← hrest, List.take_append_drop]
        obtain ⟨earlier, hearlier, hdefines⟩ :=
          exists_earlier_of_not_undeclared hlowered hform hname hundeclared
        refine .inr ⟨earlier, ?_, hdefines⟩
        simp only [Node.walkAll_append, List.mem_append] at hearlier ⊢
        tauto
  · -- the form is the call of `main`, behind all definitions
    obtain ⟨definition, hdefinition, hdefines⟩ := mem_definedNames_iff.1 hname
    refine .inr ⟨definition, List.mem_append_left _ (Node.mem_walkAll ?_), hdefines⟩
    rw [← List.take_append_drop (declarationIndex program.forms) program.forms] at hdefinition
    simp only [List.mem_append] at hdefinition ⊢
    tauto

/-- What completing a sequence of lowered forms gives: `forms`, with a declaration of `names`. -/
structure Completes (lowered : List Node) (names : List String) (forms : List Node) : Prop where
  /-- The lowered forms stay as they are. Among them stands at most the declaration, and behind them
  at most the call of `main`. -/
  forms_eq : forms =
    lowered.take (declarationIndex lowered) ++
      (if names = [] then [] else [.list (.sym "declare" :: names.map .sym)]) ++
      lowered.drop (declarationIndex lowered) ++
      (if ∃ form ∈ lowered, form.functionName? = some "main" then
        [.list [.sym "apply", .sym "main", .sym "ARGV"]] else [])
  /-- In the order of the walk, each mention of a function that a form defines comes behind the
  declaration of its name, or behind or inside a definition of it. Mentions in a leading `ns` form
  and in the declaration are left out. -/
  mentions : ∀ before form after met later name,
    forms = before ++ form :: after → form.walk = met ++ Node.sym name :: later →
    name ∈ forms.filterMap Node.functionName? →
    ¬(before = [] ∧ form.headSymbol? = some "ns") →
    ¬(names ≠ [] ∧ before.length = declarationIndex lowered) →
      (declarationIndex lowered < before.length ∧ name ∈ names) ∨
        ∃ earlier ∈ Node.walkAll before ++ met, earlier.functionName? = some name

/-- Every tree that is read gives a program, and the program is the lowered tree, conservatively
completed. -/
theorem build_completes {raw : Json} {node : Node} (hraw : Node.ofJson raw = .ok node) :
    ∃ lowered program names, Context.root.lower node = .ok lowered ∧
      Program.build raw .root = .ok program ∧ Completes lowered.nodes names program.forms := by
  refine ⟨node.lower, ofDocument node, (ofNode node).undeclared, rfl, ?_, ?_, ?_⟩
  · rw [Program.build, hraw]
    rfl
  · exact forms_completed (ofNode node)
  · intro before form after met later name hforms hform hname hns hdeclaration
    rw [show (ofDocument node).forms.filterMap Node.functionName? =
      (ofDocument node).definedNames from rfl,
      ofDocument, definedNames_appendMainCall, definedNames_declareForward] at hname
    exact declared_or_defined_of_mention hforms hform hname hns hdeclaration

/-- A program with an `ns` form, a mention of `helper` ahead of its definition, and a `main`. -/
theorem build_completes_greeting :
    let raw : Json := .obj [("forms", .arr [
      .obj [("Lst", .arr [.obj [("Sym", .str "ns")], .obj [("Sym", .str "greeting")]])],
      .obj [("Lst", .arr [.obj [("Sym", .str "defn")], .obj [("Sym", .str "main")],
        .obj [("Lst", .arr [.obj [("Sym", .str "helper")]])]])],
      .obj [("Lst", .arr [.obj [("Sym", .str "defn")], .obj [("Sym", .str "helper")]])]])]
    let node : Node := .seq .forms [.list [.sym "ns", .sym "greeting"],
      .list [.sym "defn", .sym "main", .list [.sym "helper"]], .list [.sym "defn", .sym "helper"]]
    Node.ofJson raw = .ok node ∧
      ∃ lowered program names, Context.root.lower node = .ok lowered ∧
        Program.build raw .root = .ok program ∧ Completes lowered.nodes names program.forms ∧
        program.forms = [.list [.sym "ns", .sym "greeting"], .list [.sym "declare", .sym "helper"],
          .list [.sym "defn", .sym "main", .list [.sym "helper"]],
          .list [.sym "defn", .sym "helper"], .list [.sym "apply", .sym "main", .sym "ARGV"]] := by
  intro raw node
  have hraw : Node.ofJson raw = .ok node := by rfl
  obtain ⟨lowered, program, names, hlower, hbuild, hcompletes⟩ := build_completes hraw
  have hprogram : Program.build raw .root = .ok (ofDocument node) := by rfl
  cases hprogram.symm.trans hbuild
  exact ⟨hraw, lowered, _, names, hlower, hbuild, hcompletes, rfl⟩

end Program

end ScriptForms

import ScriptForms.Proofs.Program.Completion

/-!
# The order of the two passes

The pass that declares functions ahead and the pass that calls `main` may be run in either order.
Each of them looks at the whole program, so each could be misled by what the other one adds.

* The call of `main` mentions three symbols, and a form may well define functions of these names.
  But the call comes last, and behind all forms every function that a top-level form defines is
  known (`mem_known_of_mem_definedNames`). A walk through nodes whose mentions are all known records
  nothing (`early_meetAll_of_known`), so the call adds nothing to what has to be declared
  (`undeclared_appendMainCall`).
* The call does not move the place of the declaration either (`declarationIndex_append_mainCalls`):
  in a program without forms there is no `main` to call.
* That a declaration is no definition, of `main` or of anything else, is part of `forms_completed`.
-/

namespace ScriptForms.Program

/-! ### Mentions of known functions -/

namespace Walk

/-- A node that mentions nothing new leaves the record as it is. -/
theorem early_meet_of_known {names : List String} {node : Node} {walk : Walk}
    (h : ∀ name ∈ names, node = .sym name → name ∈ walk.known) :
    (walk.meet names node).early = walk.early := by
  unfold meet
  split
  · rfl
  · next name _ =>
    by_cases hname : name ∈ names
    · have hknown : name ∈ walk.known := h name hname rfl
      rw [if_neg (by simp [hknown])]
    · rw [if_neg (by simp [hname])]
  · rfl

/-- A walk through nodes that mention nothing new leaves the record as it is. What is known only
grows, so the condition at the start carries through the walk. -/
theorem early_meetAll_of_known {names : List String} {nodes : List Node} {walk : Walk}
    (h : ∀ name ∈ names, .sym name ∈ nodes → name ∈ walk.known) :
    (meetAll names nodes walk).early = walk.early := by
  induction nodes generalizing walk with
  | nil => rfl
  | cons node rest ih =>
    have hnode : (walk.meet names node).early = walk.early := by
      refine early_meet_of_known fun name hname hsym ↦ h name hname ?_
      rw [hsym]
      exact List.mem_cons_self
    have hrest : (meetAll names rest (walk.meet names node)).early =
        (walk.meet names node).early := by
      refine ih fun name hname hmem ↦ ?_
      exact mem_known_meet.2 (.inl (h name hname (List.mem_cons_of_mem _ hmem)))
    exact hrest.trans hnode

/-- A walk through all forms makes known what a top-level form defines. -/
theorem mem_known_of_mem_definedNames {program : Program} {name : String} (names : List String)
    (h : name ∈ program.definedNames) (walk : Walk) :
    name ∈ (meetAll names (Node.walkAll program.forms) walk).known := by
  obtain ⟨form, hform, hdefines⟩ := mem_definedNames_iff.1 h
  exact mem_known_meetAll.2 (.inr ⟨form, Node.mem_walkAll hform, hdefines⟩)

end Walk

/-! ### The two passes -/

/-- Whatever stands behind all forms mentions no function ahead of its definition. -/
theorem forwardReferences_append (program : Program) (more : List Node) :
    (⟨program.forms ++ more⟩ : Program).forwardReferences program.definedNames =
      program.undeclared := by
  rw [undeclared, forwardReferences, forwardReferences, Walk.visitAll_eq_meetAll,
    Walk.visitAll_eq_meetAll, Node.walkAll_append, Walk.meetAll_append]
  exact Walk.early_meetAll_of_known fun name hname _ ↦ Walk.mem_known_of_mem_definedNames _ hname _

/-- The call of `main` adds nothing to what has to be declared. -/
theorem undeclared_appendMainCall (program : Program) :
    program.appendMainCall.undeclared = program.undeclared := by
  have hcall : program.appendMainCall = ⟨program.forms ++ mainCalls program.forms⟩ :=
    congrArg Program.mk (forms_appendMainCall program)
  rw [undeclared, definedNames_appendMainCall, hcall, forwardReferences_append]

/-- The call of `main` does not move the place of the declaration. -/
theorem declarationIndex_append_mainCalls (forms : List Node) :
    declarationIndex (forms ++ mainCalls forms) = declarationIndex forms := by
  cases forms with
  | nil => rfl
  | cons first rest => rfl

/-- **The two passes commute**: it does not matter whether functions are declared ahead before or
after the call of `main` is added. -/
theorem declareForward_appendMainCall_comm (program : Program) :
    program.declareForward.appendMainCall = program.appendMainCall.declareForward := by
  have hindex : declarationIndex program.forms ≤ program.forms.length := by
    rw [← length_take_declarationIndex, List.length_take]
    exact Nat.min_le_right _ _
  have hforms : program.declareForward.appendMainCall.forms =
      program.appendMainCall.declareForward.forms := by
    rw [forms_completed, forms_declareForward, undeclared_appendMainCall, forms_appendMainCall,
      declarationIndex_append_mainCalls, List.take_append_of_le_length hindex,
      List.drop_append_of_le_length hindex, List.append_assoc _ (program.forms.drop _)]
  exact congrArg Program.mk hforms

/-- Functions named like the words of the call, with mentions ahead of the definitions. -/
example :
    let program : Program := ⟨[.list [.sym "ns", .sym "ARGV"],
      .list [.sym "defn", .sym "main", .list [.sym "apply", .sym "declare"]],
      .list [.sym "defn", .sym "apply"], .list [.sym "defn", .sym "ARGV"]]⟩
    program.appendMainCall.declareForward.forms =
      [.list [.sym "ns", .sym "ARGV"], .list [.sym "declare", .sym "ARGV", .sym "apply"],
        .list [.sym "defn", .sym "main", .list [.sym "apply", .sym "declare"]],
        .list [.sym "defn", .sym "apply"], .list [.sym "defn", .sym "ARGV"],
        .list [.sym "apply", .sym "main", .sym "ARGV"]] := by
  decide

end ScriptForms.Program

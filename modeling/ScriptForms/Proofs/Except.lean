/-!
# Actions that may fail

What the result of an action says about the actions it is made of.
-/

namespace ScriptForms

/-- A sequence of two actions succeeds only if both do. -/
theorem exists_of_bind_eq_ok {ε α β : Type} {action : Except ε α}
    {next : α → Except ε β} {result : β}
    (h : action >>= next = .ok result) : ∃ value, action = .ok value ∧ next value = .ok result := by
  cases action with
  | error cause => cases h
  | ok value => exact ⟨value, rfl, h⟩

/-- The value of a mapped action comes from a value of the action. -/
theorem exists_of_map_eq_ok {ε α β : Type} {action : Except ε α} {f : α → β} {result : β}
    (h : action.map f = .ok result) : ∃ value, action = .ok value ∧ f value = result := by
  cases action with
  | error cause => cases h
  | ok value => exact ⟨value, rfl, Except.ok.inj h⟩

/-- Renaming its errors makes no action succeed. -/
theorem mapError_eq_ok_iff {ε ε' α : Type} {action : Except ε α} {f : ε → ε'} {result : α} :
    action.mapError f = .ok result ↔ action = .ok result := by
  constructor
  · intro h
    cases action with
    | error cause => cases h
    | ok value => exact congrArg Except.ok (Except.ok.inj h)
  · rintro rfl
    rfl

/-- A sequence of two actions fails with the error of the first, or else of the second. -/
theorem eq_error_or_exists_of_bind_eq_error {ε α β : Type} {action : Except ε α}
    {next : α → Except ε β} {cause : ε} (h : action >>= next = .error cause) :
    action = .error cause ∨ ∃ value, action = .ok value ∧ next value = .error cause := by
  cases action with
  | error cause' =>
    cases h
    exact .inl rfl
  | ok value => exact .inr ⟨value, rfl, h⟩

theorem exists_of_mapError_eq_error {ε ε' α : Type} {action : Except ε α} {f : ε → ε'} {cause : ε'}
    (h : action.mapError f = .error cause) :
    ∃ cause', action = .error cause' ∧ f cause' = cause := by
  cases action with
  | error cause' => exact ⟨cause', rfl, Except.error.inj h⟩
  | ok value => cases h

/-- An action fails just if it does not succeed. -/
theorem exists_eq_error_iff {ε α : Type} {action : Except ε α} :
    (∃ cause, action = .error cause) ↔ ¬∃ value, action = .ok value := by
  cases action with
  | error cause => simp
  | ok value => simp

/-- The error of an action that fails. -/
def failure? {ε α : Type} : Except ε α → Option ε
  | .error cause => some cause
  | .ok _ => none

theorem failure?_eq_some_iff {ε α : Type} {action : Except ε α} {cause : ε} :
    failure? action = some cause ↔ action = .error cause := by
  constructor
  · intro h
    cases action with
    | error cause' => exact congrArg Except.error (Option.some.inj h)
    | ok value => cases h
  · rintro rfl
    rfl

theorem failure?_eq_none_iff {ε α : Type} {action : Except ε α} :
    failure? action = none ↔ ∃ value, action = .ok value := by
  cases action with
  | error cause =>
    refine iff_of_false (Option.some_ne_none cause) ?_
    rintro ⟨value, hvalue⟩
    cases hvalue
  | ok value => exact iff_of_true rfl ⟨value, rfl⟩

theorem failure?_map {ε α β : Type} (action : Except ε α) (f : α → β) :
    failure? (action.map f) = failure? action := by
  cases action <;> rfl

end ScriptForms

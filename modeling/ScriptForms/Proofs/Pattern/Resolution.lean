import ScriptForms.Proofs.Except
import ScriptForms.Proofs.Pattern.References

/-!
# Resolution of templates

Resolving a template repeats one round, in which the first reference is looked up and all references
to its name are replaced, until no reference is left or a name has no source. `Template.Resolves` is
this loop without a bound on the rounds. If no source holds a reference, every run of the loop ends,
after at most as many rounds as the potential of the template (`exists_resolves`), and so the bound
that `NamedPatterns.resolve` gives is never reached.

That no source holds a reference is an invariant of tables, whatever compiler they are used with: a
definition adds the text of a run that has ended. What a definition does to a table is said once, by
`define_cases`. `NamedPatterns.Reachable` collects the tables that any sequence of definitions leads
to, be they successful or not.
-/

namespace ScriptForms

namespace Template

/-! ### The loop -/

/-- Resolving `text` takes the given number of rounds and ends in the result: a text without
references, or the first name without a source. -/
inductive Resolves (source? : String → Option (List Char)) :
    List Char → Nat → Except String (List Char) → Prop
  | done {text : List Char} (hfirst : firstReference? text = none) :
      Resolves source? text 0 (.ok text)
  | unresolved {text name : List Char} (hfirst : firstReference? text = some name)
      (hsource : source? (String.ofList name) = none) :
      Resolves source? text 0 (.error (String.ofList name))
  | round {text name value : List Char} {rounds : Nat} {result : Except String (List Char)}
      (hfirst : firstReference? text = some name)
      (hsource : source? (String.ofList name) = some value)
      (hrest : Resolves source? (substitute name value text) rounds result) :
      Resolves source? text (rounds + 1) result

variable {source? : String → Option (List Char)}

/-- A run that ends with a text has resolved all references. -/
theorem Resolves.not_hasReference {text : List Char} {rounds : Nat}
    {result : Except String (List Char)} (h : Resolves source? text rounds result) :
    ∀ resolved, result = .ok resolved → ¬HasReference resolved := by
  induction h with
  | done hfirst =>
    rintro resolved ⟨⟩
    exact firstReference_eq_none_iff.1 hfirst
  | unresolved => nofun
  | round _ _ _ ih => exact ih

/-- A run that ends with a name has not found its source. -/
theorem Resolves.source_eq_none {text : List Char} {rounds : Nat}
    {result : Except String (List Char)} (h : Resolves source? text rounds result) :
    ∀ name, result = .error name → source? name = none := by
  induction h with
  | done => nofun
  | unresolved _ hsource =>
    rintro name ⟨⟩
    exact hsource
  | round _ _ _ ih => exact ih

/-- With more fuel than the loop has rounds, `resolve` gives the result of the loop. -/
theorem Resolves.resolve_eq {text : List Char} {rounds : Nat} {result : Except String (List Char)}
    (h : Resolves source? text rounds result) {fuel : Nat} (hfuel : rounds < fuel) :
    resolve source? fuel text = result := by
  induction h generalizing fuel with
  | done hfirst =>
    cases fuel with
    | zero => rfl
    | succ fuel => simp only [resolve, hfirst]
  | unresolved hfirst hsource =>
    cases fuel with
    | zero => exact absurd hfuel (Nat.lt_irrefl 0)
    | succ fuel => simp only [resolve, hfirst, hsource]
  | round hfirst hsource _ ih =>
    cases fuel with
    | zero => exact absurd hfuel (Nat.not_lt_zero _)
    | succ fuel =>
      simp only [resolve, hfirst, hsource]
      exact ih (Nat.lt_of_succ_lt_succ hfuel)

/-- The loop ends if the sources hold no references: each round lowers the potential. -/
theorem exists_resolves {base : Nat}
    (hfree : ∀ name value, source? name = some value → ¬HasReference value)
    (hlength : ∀ name value, source? name = some value → value.length < base) (text : List Char) :
    ∃ rounds result, rounds ≤ potential base text ∧ Resolves source? text rounds result := by
  match hfirst : firstReference? text with
  | none => exact ⟨0, _, Nat.zero_le _, .done hfirst⟩
  | some name =>
    match hsource : source? (String.ofList name) with
    | none => exact ⟨0, _, Nat.zero_le _, .unresolved hfirst hsource⟩
    | some value =>
      have hlt : potential base (substitute name value text) < potential base text :=
        potential_substitute_lt (hfree _ _ hsource) (hlength _ _ hsource) hfirst
      obtain ⟨rounds, result, hle, hrest⟩ :=
        exists_resolves hfree hlength (substitute name value text)
      exact ⟨rounds + 1, result, Nat.lt_of_le_of_lt hle hlt, .round hfirst hsource hrest⟩
termination_by potential base text

end Template

open Template

namespace NamedPatterns

variable {μ : Type} {compile : Compiler μ} {table : NamedPatterns μ} {name : String}

/-! ### Resolution by a table -/

/-- No source holds a reference. -/
def ReferenceFree (table : NamedPatterns μ) : Prop :=
  ∀ entry ∈ table.sources, ¬HasReference entry.2

/-- A name has a source exactly if it is one of the names of the table. -/
theorem mem_names_iff : name ∈ table.names ↔ ∃ text, table.source? name = some text := by
  rw [← Option.isSome_iff_exists, source?, List.lookup_isSome_iff, names, List.mem_map]
  refine exists_congr fun entry ↦ and_congr_right fun _ ↦ ?_
  rw [beq_iff_eq, eq_comm]

theorem source?_eq_none_iff : table.source? name = none ↔ name ∉ table.names := by
  rw [mem_names_iff, ← Option.isSome_iff_exists, Bool.not_eq_true, Option.isSome_eq_false_iff,
    Option.isNone_iff_eq_none]

/-- What is found under a name is an entry of the table. -/
theorem mem_sources_of_source? {value : List Char} (h : table.source? name = some value) :
    (name, value) ∈ table.sources := by
  obtain ⟨before, after, hsources, -⟩ := List.lookup_eq_some_iff.1 h
  rw [hsources]
  exact List.mem_append_right _ List.mem_cons_self

theorem ReferenceFree.of_source? (h : table.ReferenceFree) (name : String) (value : List Char)
    (hvalue : table.source? name = some value) : ¬HasReference value :=
  h _ (mem_sources_of_source? hvalue)

theorem length_le_longestSource {entry : String × List Char} (h : entry ∈ table.sources) :
    entry.2.length ≤ table.longestSource := by
  have hmem := List.mem_map_of_mem (f := fun entry : String × List Char ↦ entry.2.length) h
  rw [longestSource, List.foldl_max]
  exact Nat.le_trans (List.le_max?_getD_of_mem hmem) (Nat.le_max_right _ _)

/-- Resolution by a table is resolution by its sources, within the bound. -/
theorem resolve_eq (table : NamedPatterns μ) (template : List Char) :
    table.resolve template =
      (Template.resolve table.source? (table.substitutionBound template.length) template).mapError
        (PatternError.unresolved · template) := by
  rw [NamedPatterns.resolve]
  split
  · next h => exact congrArg (Except.mapError (PatternError.unresolved · template)) h.symm
  · next h => exact congrArg (Except.mapError (PatternError.unresolved · template)) h.symm

/-- Resolution by a table without references in its sources ends, with a text that holds none or
with the name of a pattern that is not there. -/
theorem ReferenceFree.exists_resolve (h : table.ReferenceFree) (template : List Char) :
    (∃ text rounds, Resolves table.source? template rounds (.ok text) ∧
      table.resolve template = .ok text ∧ ¬HasReference text) ∨
    ∃ name rounds, Resolves table.source? template rounds (.error name) ∧
      table.resolve template = .error (.unresolved name template) ∧ name ∉ table.names := by
  have hlength : ∀ name value, table.source? name = some value →
      value.length < table.longestSource + 1 := fun name value hvalue ↦
    Nat.lt_succ_of_le (length_le_longestSource (mem_sources_of_source? hvalue))
  obtain ⟨rounds, result, hrounds, hresolves⟩ := exists_resolves h.of_source? hlength template
  have hfuel : rounds < table.substitutionBound template.length :=
    Nat.lt_succ_of_le (Nat.le_trans hrounds
      (potential_le (Nat.succ_pos _) template (Nat.le_refl _)))
  have hresolve := hresolves.resolve_eq hfuel
  cases result with
  | ok text =>
    refine .inl ⟨text, rounds, hresolves, ?_, hresolves.not_hasReference text rfl⟩
    rw [resolve_eq, hresolve]
    rfl
  | error name =>
    refine .inr ⟨name, rounds, hresolves, ?_,
      source?_eq_none_iff.1 (hresolves.source_eq_none name rfl)⟩
    rw [resolve_eq, hresolve]
    rfl

/-! ### One definition -/

section Define

variable {template source : List Char} {matcher : μ}

/-- A name that is not made of letters is refused. -/
theorem define_of_invalid (hvalid : isValidName name = false) :
    (define compile name template).run.run table = (.error (.invalidName name), table) := by
  rw [define, hvalid]
  rfl

/-- A name that has a source is refused. -/
theorem define_of_taken (hvalid : isValidName name = true)
    (htaken : table.source? name = some source) :
    (define compile name template).run.run table = (.error (.alreadyDefined name), table) := by
  rw [define, hvalid]
  show (if (table.source? name).isSome = true then _ else _ : Session μ μ).run.run table = _
  rw [htaken]
  rfl

/-- For a new name, what is left is to resolve the template, to compile it and to write twice. -/
theorem define_of_new (hvalid : isValidName name = true) (hnew : table.source? name = none) :
    (define compile name template).run.run table =
      (do let source ← MonadExcept.ofExcept (table.resolve template)
          let matcher ← MonadExcept.ofExcept (compileSource compile source)
          modify (putSource name source)
          modify (putMatcher name matcher)
          return matcher : Session μ μ).run.run table := by
  rw [define, hvalid]
  show (if (table.source? name).isSome = true then _ else _ : Session μ μ).run.run table = _
  rw [hnew]
  rfl

/-- A template that cannot be resolved is refused. -/
theorem define_of_unresolved {cause : PatternError} (hvalid : isValidName name = true)
    (hnew : table.source? name = none) (hresolve : table.resolve template = .error cause) :
    (define compile name template).run.run table = (.error cause, table) := by
  rw [define_of_new hvalid hnew, hresolve]
  rfl

/-- A source that cannot be compiled is refused, before anything is written. -/
theorem define_of_malformed (hvalid : isValidName name = true) (hnew : table.source? name = none)
    (hresolve : table.resolve template = .ok source) (hcompile : compile source = none) :
    (define compile name template).run.run table = (.error (.malformed source), table) := by
  have hmalformed : compileSource compile source = .error (.malformed source) := by
    rw [compileSource, hcompile]
  rw [define_of_new hvalid hnew, hresolve]
  show (MonadExcept.ofExcept (compileSource compile source) >>= _ : Session μ μ).run.run table = _
  rw [hmalformed]
  rfl

/-- Otherwise both dictionaries are written. -/
theorem define_of_compiled (hvalid : isValidName name = true) (hnew : table.source? name = none)
    (hresolve : table.resolve template = .ok source) (hcompile : compile source = some matcher) :
    (define compile name template).run.run table =
      (.ok matcher, putMatcher name matcher (putSource name source table)) := by
  have hcompiled : compileSource compile source = .ok matcher := by
    rw [compileSource, hcompile]
  rw [define_of_new hvalid hnew, hresolve]
  show (MonadExcept.ofExcept (compileSource compile source) >>= _ : Session μ μ).run.run table = _
  rw [hcompiled]
  rfl

/-- What a definition does to a table. It fails and leaves the table as it is, or the name is new
and the template can be resolved and compiled, and then both dictionaries get an entry. -/
theorem define_cases (compile : Compiler μ) (table : NamedPatterns μ) (name : String)
    (template : List Char) :
    (∃ cause, (define compile name template).run.run table = (.error cause, table)) ∨
    ∃ source matcher, isValidName name = true ∧ table.source? name = none ∧
      table.resolve template = .ok source ∧ compile source = some matcher ∧
      (define compile name template).run.run table =
        (.ok matcher, putMatcher name matcher (putSource name source table)) := by
  cases hvalid : isValidName name with
  | false => exact .inl ⟨_, define_of_invalid hvalid⟩
  | true =>
    cases hnew : table.source? name with
    | some source => exact .inl ⟨_, define_of_taken hvalid hnew⟩
    | none =>
      cases hresolve : table.resolve template with
      | error cause => exact .inl ⟨_, define_of_unresolved hvalid hnew hresolve⟩
      | ok source =>
        cases hcompile : compile source with
        | none => exact .inl ⟨_, define_of_malformed hvalid hnew hresolve hcompile⟩
        | some matcher =>
          exact .inr ⟨source, matcher, rfl, rfl, rfl, hcompile,
            define_of_compiled hvalid hnew hresolve hcompile⟩

end Define

/-- A new name gets its source behind the others. -/
theorem sources_putSource {source : List Char} (hnew : table.source? name = none) :
    (putSource name source table).sources = table.sources ++ [(name, source)] :=
  Dictionary.store_of_lookup_eq_none source hnew

/-! ### Several definitions -/

/-- Several definitions are made by making the first and then the others, unless the first fails. -/
theorem defineAll_cons (compile : Compiler μ) (table : NamedPatterns μ)
    (definition : String × List Char) (rest : List (String × List Char)) :
    (∃ cause, (define compile definition.1 definition.2).run.run table = (.error cause, table) ∧
      (defineAll compile (definition :: rest)).run.run table = (.error cause, table)) ∨
    ∃ matcher next, (define compile definition.1 definition.2).run.run table = (.ok matcher, next) ∧
      (defineAll compile (definition :: rest)).run.run table =
        (defineAll compile rest).run.run next := by
  have hrun : (defineAll compile (definition :: rest)).run.run table =
      (define compile definition.1 definition.2 >>= fun _ ↦ defineAll compile rest :
        Session μ Unit).run.run table := rfl
  obtain ⟨cause, hdefine⟩ | ⟨source, matcher, -, -, -, -, hdefine⟩ :=
    define_cases compile table definition.1 definition.2
  · refine .inl ⟨cause, hdefine, ?_⟩
    rw [hrun, ExceptT.run_bind, StateT.run_bind, hdefine]
    rfl
  · refine .inr ⟨matcher, _, hdefine, ?_⟩
    rw [hrun, ExceptT.run_bind, StateT.run_bind, hdefine]
    rfl

/-- What each definition keeps, a table of definitions has if the empty table has it. -/
theorem ofDefinitions_induction {holds : NamedPatterns μ → Prop}
    (hdefine : ∀ table name template matcher next,
      (define compile name template).run.run table = (.ok matcher, next) → holds table → holds next)
    {definitions : List (String × List Char)} (hempty : holds empty)
    (h : ofDefinitions compile definitions = .ok table) : holds table := by
  have hall : ∀ (definitions : List (String × List Char)) (start last : NamedPatterns μ),
      holds start → (defineAll compile definitions).run.run start = (.ok (), last) →
        holds last := by
    intro definitions
    induction definitions with
    | nil =>
      intro start last hstart hrun
      cases hrun
      exact hstart
    | cons definition rest ih =>
      intro start last hstart hrun
      obtain ⟨cause, -, hfails⟩ | ⟨matcher, next, hfirst, hrest⟩ :=
        defineAll_cons compile start definition rest
      · cases hfails.symm.trans hrun
      · exact ih next last (hdefine _ _ _ _ _ hfirst hstart) (hrest.symm.trans hrun)
  rw [ofDefinitions] at h
  split at h
  · next hrun =>
    cases h
    exact hall definitions empty _ hempty hrun
  · cases h

/-! ### Reachable tables -/

/-- The table after a request to define a pattern, which may fail. -/
def attempt (compile : Compiler μ) (table : NamedPatterns μ) (name : String)
    (template : List Char) : NamedPatterns μ :=
  ((define compile name template).run.run table).2

/-- The tables that requests to define patterns lead to. -/
inductive Reachable (compile : Compiler μ) : NamedPatterns μ → Prop
  | empty : Reachable compile empty
  | ofDefinitions {definitions : List (String × List Char)} {table : NamedPatterns μ}
      (h : NamedPatterns.ofDefinitions compile definitions = .ok table) : Reachable compile table
  | attempt {table : NamedPatterns μ} (h : Reachable compile table) (name : String)
      (template : List Char) : Reachable compile (table.attempt compile name template)

theorem referenceFree_empty : (empty : NamedPatterns μ).ReferenceFree :=
  List.forall_mem_nil _

/-- A definition that succeeds adds a source without references. -/
theorem ReferenceFree.define {next : NamedPatterns μ} {template : List Char} {matcher : μ}
    (h : table.ReferenceFree)
    (hdefine : (define compile name template).run.run table = (.ok matcher, next)) :
    next.ReferenceFree := by
  obtain ⟨cause, hfails⟩ | ⟨source, matcher, -, hnew, hresolve, -, hruns⟩ :=
    define_cases compile table name template
  · cases hfails.symm.trans hdefine
  · cases hruns.symm.trans hdefine
    have hsource : ¬HasReference source := by
      obtain ⟨text, -, -, htext, hnot⟩ | ⟨name, -, -, hname, -⟩ := h.exists_resolve template
      · cases hresolve.symm.trans htext
        exact hnot
      · cases hresolve.symm.trans hname
    show ∀ entry ∈ (putSource name source table).sources, ¬HasReference entry.2
    rw [sources_putSource hnew]
    exact List.forall_mem_append.2 ⟨h, List.forall_mem_singleton.2 hsource⟩

/-- The sources of all tables that can be reached hold no references. -/
theorem Reachable.referenceFree (h : Reachable compile table) : table.ReferenceFree := by
  induction h with
  | empty => exact referenceFree_empty
  | ofDefinitions h =>
    exact ofDefinitions_induction (fun _ _ _ _ _ hdefine hfree ↦ hfree.define hdefine)
      referenceFree_empty h
  | @attempt table _ name template ih =>
    rw [NamedPatterns.attempt]
    obtain ⟨cause, hfails⟩ | ⟨source, matcher, -, -, -, -, hruns⟩ :=
      define_cases compile table name template
    · rw [hfails]
      exact ih
    · rw [hruns]
      exact ih.define hruns

/-- **Resolution ends.** Whatever compiler a table is used with: if any definitions have led to it,
resolution by it ends after finitely many rounds, with a text that holds no reference or with the
name of a pattern that is not there, and the sources in the table hold no reference. -/
theorem resolution_ends (h : Reachable compile table) :
    (∀ template : List Char,
      (∃ text rounds, Resolves table.source? template rounds (.ok text) ∧
        table.resolve template = .ok text ∧ ¬HasReference text) ∨
      ∃ name rounds, Resolves table.source? template rounds (.error name) ∧
        table.resolve template = .error (.unresolved name template) ∧ name ∉ table.names) ∧
    ∀ entry ∈ table.sources, ¬HasReference entry.2 :=
  ⟨h.referenceFree.exists_resolve, h.referenceFree⟩

/-- Two references to `n` become `a$a$`, where the first dollar sign and the second `a` form a new
one. The compiler takes every source of at most two characters. -/
theorem resolution_ends_new_reference :
    let compile : Compiler Nat := fun source ↦
      if source.length ≤ 2 then some source.length else none
    let table := (((empty.attempt compile "n" ['a', '$']).attempt compile "a" ['b']).attempt
      compile "n" ['c']).attempt compile "m" ['c', 'c', 'c']
    let template := ['$', 'n', '$', 'n']
    Reachable compile table ∧ table.names = ["n", "a"] ∧
      ∃ rounds, Resolves table.source? template rounds (.ok ['a', 'b', '$']) ∧
        ¬HasReference ['a', 'b', '$'] := by
  intro compile table template
  have htable : Reachable compile table :=
    .attempt (.attempt (.attempt (.attempt .empty _ _) _ _) _ _) _ _
  have hresolve : table.resolve template = .ok ['a', 'b', '$'] := by rfl
  refine ⟨htable, by decide, ?_⟩
  obtain ⟨text, rounds, hrounds, htext, hnot⟩ | ⟨name, -, -, hname, -⟩ :=
    (resolution_ends htable).1 template
  · cases hresolve.symm.trans htext
    exact ⟨rounds, hrounds, hnot⟩
  · cases hresolve.symm.trans hname

end NamedPatterns

end ScriptForms

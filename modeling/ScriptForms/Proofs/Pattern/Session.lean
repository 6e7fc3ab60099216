import Mathlib.Data.List.Forall2
import ScriptForms.Pattern.Session
import ScriptForms.Proofs.Pattern.Resolution

/-!
# What a table keeps over a whole session

A request does one of two things to a table: it leaves the table as it is, or it is a definition
that succeeds, and then it has written both dictionaries (`answer_cases`, from `define_cases`).
Everything that is said here about sessions follows from this by induction on the requests.

* The names in the table are those that it started with and those of the definitions that have
  succeeded, in their order (`names_answerAll`).
* Each name is a run of letters and none occurs twice. The two dictionaries have the same names in
  the same order, and what is in the second is what the sources in the first are compiled to. This
  is the invariant `Sound`. A definition looks for its name among the sources only; that the name is
  new to the other dictionary as well is due to the invariant (`Sound.isSome_get?`).
* The source under a name stays there (`source?_answerAll`), since sources are only added behind the
  others.
-/

namespace ScriptForms

namespace NamedPatterns

variable {μ : Type} {compile : Compiler μ} {table : NamedPatterns μ} {name : String}

/-! ### One request -/

/-- Whether the request is to define a pattern. -/
def Request.isDefinition : Request → Bool
  | define _ _ => true
  | _ => false

/-- An action that only asks the table leaves it as it is. -/
theorem snd_run_question {α : Type} (read : NamedPatterns μ → Except PatternError α)
    (reply : α → Reply μ) :
    ((MonadState.get >>= fun table ↦ MonadExcept.ofExcept (read table) >>= fun value ↦
      pure (reply value) : Session μ (Reply μ)).run.run table).2 = table := by
  show ((MonadExcept.ofExcept (read table) >>= fun value ↦
    pure (reply value) : Session μ (Reply μ)).run.run table).2 = table
  cases read table with
  | error cause => rfl
  | ok value => rfl

/-- Only a definition can change a table. -/
theorem answer_of_not_definition (compile : Compiler μ) (table : NamedPatterns μ)
    {request : Request} (h : request.isDefinition = false) :
    (table.answer compile request).2 = table := by
  cases request with
  | define name template => cases h
  | expand template => exact snd_run_question (·.expand compile template) .pattern
  | interpolate template => exact snd_run_question (·.resolve template) .text
  | source name => exact snd_run_question (·.source name) .text
  | get name => exact snd_run_question (·.get name) .pattern
  | contains name => rfl

/-- A request to define a pattern is answered with what the definition gives. -/
theorem answer_define (compile : Compiler μ) (table : NamedPatterns μ) (name : String)
    (template : List Char) :
    table.answer compile (.define name template) =
      let (result, next) := (define compile name template).run.run table
      (result.map .pattern, next) := by
  have hrun : table.answer compile (.define name template) =
      (define compile name template >>= fun matcher ↦ pure (.pattern matcher) :
        Session μ (Reply μ)).run.run table := rfl
  rw [hrun, ExceptT.run_bind, StateT.run_bind]
  obtain ⟨cause, hdefine⟩ | ⟨source, matcher, -, -, -, -, hdefine⟩ :=
    define_cases compile table name template
  · rw [hdefine]
    rfl
  · rw [hdefine]
    rfl

/-- What a request does to a table: nothing, and then it is no definition or it fails; or it is a
definition that succeeds. -/
theorem answer_cases (compile : Compiler μ) (table : NamedPatterns μ) (request : Request) :
    ((table.answer compile request).2 = table ∧
      (request.isDefinition = false ∨ ∃ cause, (table.answer compile request).1 = .error cause)) ∨
    ∃ name template matcher next, request = .define name template ∧
      (define compile name template).run.run table = (.ok matcher, next) ∧
      table.answer compile request = (.ok (.pattern matcher), next) := by
  cases hrequest : request.isDefinition with
  | false => exact .inl ⟨answer_of_not_definition compile table hrequest, .inl rfl⟩
  | true =>
    cases request with
    | define name template =>
      have hanswer := answer_define compile table name template
      obtain ⟨cause, hdefine⟩ | ⟨source, matcher, -, -, -, -, hdefine⟩ :=
        define_cases compile table name template
      · rw [hdefine] at hanswer
        exact .inl ⟨by rw [hanswer], .inr ⟨cause, by rw [hanswer]; rfl⟩⟩
      · rw [hdefine] at hanswer
        exact .inr ⟨name, template, matcher, _, rfl, hdefine, hanswer⟩
    | _ => cases hrequest

/-! ### Names and sources -/

/-- A definition that succeeds puts its source behind the others. -/
theorem exists_sources_of_define {template : List Char} {matcher : μ} {next : NamedPatterns μ}
    (h : (define compile name template).run.run table = (.ok matcher, next)) :
    ∃ source, next.sources = table.sources ++ [(name, source)] := by
  obtain ⟨cause, hfails⟩ | ⟨source, matcher, -, hnew, -, -, hruns⟩ :=
    define_cases compile table name template
  · cases hfails.symm.trans h
  · cases hruns.symm.trans h
    exact ⟨source, sources_putSource hnew⟩

/-- A definition that succeeds puts its name behind the others. -/
theorem names_of_define {template : List Char} {matcher : μ} {next : NamedPatterns μ}
    (h : (define compile name template).run.run table = (.ok matcher, next)) :
    next.names = table.names ++ [name] := by
  obtain ⟨source, hsources⟩ := exists_sources_of_define h
  rw [names, hsources, List.map_append]
  rfl

/-- Definitions that all succeed put their names behind the others. -/
theorem names_of_defineAll {definitions : List (String × List Char)} {next : NamedPatterns μ}
    (h : (defineAll compile definitions).run.run table = (.ok (), next)) :
    next.names = table.names ++ definitions.map Prod.fst := by
  induction definitions generalizing table with
  | nil =>
    cases h
    exact (List.append_nil _).symm
  | cons definition rest ih =>
    obtain ⟨cause, -, hfails⟩ | ⟨matcher, middle, hfirst, hrest⟩ :=
      defineAll_cons compile table definition rest
    · cases hfails.symm.trans h
    · rw [ih (hrest.symm.trans h), names_of_define hfirst, List.append_assoc, List.map_cons,
        List.singleton_append]

/-- A table of definitions has their names. -/
theorem names_of_ofDefinitions {definitions : List (String × List Char)}
    (h : ofDefinitions compile definitions = .ok table) :
    table.names = definitions.map Prod.fst := by
  rw [ofDefinitions] at h
  split at h
  · next hrun =>
    cases h
    exact names_of_defineAll hrun
  · cases h

/-- The name that a request has defined, if it is a definition that succeeds. -/
def definedName? : Request → Except PatternError (Reply μ) → Option String
  | .define name _, .ok _ => some name
  | _, _ => none

/-- The names that requests have defined, in order, from the requests and their results. -/
def definedNames (requests : List Request) (results : List (Except PatternError (Reply μ))) :
    List String :=
  (List.zipWith definedName? requests results).filterMap id

/-- One request adds the name that it has defined, if it has. -/
theorem names_answer (compile : Compiler μ) (table : NamedPatterns μ) (request : Request) :
    (table.answer compile request).2.names =
      table.names ++ (definedName? request (table.answer compile request).1).toList := by
  rcases answer_cases compile table request with
    ⟨hsame, hnone⟩ | ⟨name, template, matcher, next, rfl, hdefine, hanswer⟩
  · have hdefined : definedName? request (table.answer compile request).1 = none := by
      rcases hnone with hrequest | ⟨cause, hcause⟩
      · cases request with
        | define name template => cases hrequest
        | _ => rfl
      · rw [hcause]
        cases request <;> rfl
    rw [hsame, hdefined, Option.toList_none, List.append_nil]
  · rw [hanswer, names_of_define hdefine]
    rfl

/-- The table behind several requests, from that behind the first. -/
theorem snd_answerAll_cons (compile : Compiler μ) (table : NamedPatterns μ) (request : Request)
    (rest : List Request) :
    (table.answerAll compile (request :: rest)).2 =
      ((table.answer compile request).2.answerAll compile rest).2 :=
  rfl

/-- A session may be cut in two anywhere. -/
theorem snd_answerAll_append (compile : Compiler μ) (table : NamedPatterns μ)
    (requests more : List Request) :
    (table.answerAll compile (requests ++ more)).2 =
      ((table.answerAll compile requests).2.answerAll compile more).2 := by
  induction requests generalizing table with
  | nil => rfl
  | cons request rest ih =>
    rw [List.cons_append, snd_answerAll_cons, snd_answerAll_cons, ih]

/-- The names behind a session are those before it, then those of the definitions that have
succeeded. -/
theorem names_answerAll (compile : Compiler μ) (table : NamedPatterns μ) (requests : List Request) :
    (table.answerAll compile requests).2.names =
      table.names ++ definedNames requests (table.answerAll compile requests).1 := by
  induction requests generalizing table with
  | nil => exact (List.append_nil _).symm
  | cons request rest ih =>
    rw [snd_answerAll_cons, ih, names_answer, List.append_assoc]
    show _ = table.names ++ (definedName? request (table.answer compile request).1 ::
      List.zipWith definedName? rest
        ((table.answer compile request).2.answerAll compile rest).1).filterMap id
    rw [List.filterMap_cons]
    cases definedName? request (table.answer compile request).1 with
    | none => rfl
    | some name => rfl

/-- No request changes the source under a name. -/
theorem source?_answer {text : List Char} (h : table.source? name = some text)
    (request : Request) : (table.answer compile request).2.source? name = some text := by
  rcases answer_cases compile table request with ⟨hsame, -⟩ | ⟨_, _, _, _, -, hdefine, hanswer⟩
  · rw [hsame, h]
  · obtain ⟨added, hsources⟩ := exists_sources_of_define hdefine
    rw [hanswer, source?, hsources, List.lookup_append, ← source?, h, Option.some_or]

/-- The source under a name stays there. -/
theorem source?_answerAll {text : List Char} (h : table.source? name = some text)
    (requests : List Request) :
    (table.answerAll compile requests).2.source? name = some text := by
  induction requests generalizing table with
  | nil => exact h
  | cons request rest ih => exact ih (source?_answer h request)

/-! ### The invariant -/

/-- What holds of a table at every point of a session. -/
structure Sound (compile : Compiler μ) (table : NamedPatterns μ) : Prop where
  nodup : table.names.Nodup
  valid : ∀ name ∈ table.names, isValidName name = true
  /-- The dictionaries go together, entry by entry. -/
  compiled : List.Forall₂ (fun source matcher ↦ source.1 = matcher.1 ∧
    compile source.2 = some matcher.2) table.sources table.matchers

theorem sound_empty : Sound compile empty where
  nodup := List.nodup_nil
  valid := List.forall_mem_nil _
  compiled := .nil

/-- Under a name, the dictionaries have nothing, or a source and what it is compiled to. -/
theorem Sound.lookup_cases (h : table.Sound compile) (name : String) :
    (table.source? name = none ∧ table.get? name = none) ∨
    ∃ text matcher, table.source? name = some text ∧ table.get? name = some matcher ∧
      compile text = some matcher := by
  rw [source?, get?]
  have hcompiled := h.compiled
  generalize table.sources = sources, table.matchers = matchers at hcompiled ⊢
  induction hcompiled with
  | nil => exact .inl ⟨rfl, rfl⟩
  | @cons source matcher sources matchers hentry _ ih =>
    rw [List.lookup_cons, List.lookup_cons, ← hentry.1]
    cases name == source.1 with
    | true => exact .inr ⟨source.2, matcher.2, rfl, rfl, hentry.2⟩
    | false => exact ih

/-- The dictionaries have the same names. -/
theorem Sound.isSome_get? (h : table.Sound compile) (name : String) :
    (table.get? name).isSome = (table.source? name).isSome := by
  obtain ⟨hsource, hget⟩ | ⟨text, matcher, hsource, hget, -⟩ := h.lookup_cases name
  · rw [hsource, hget]
    rfl
  · rw [hsource, hget]
    rfl

/-- A definition keeps the invariant. -/
theorem Sound.define {template : List Char} {matcher : μ} {next : NamedPatterns μ}
    (h : table.Sound compile)
    (hdefine : (define compile name template).run.run table = (.ok matcher, next)) :
    next.Sound compile := by
  have hnames := names_of_define hdefine
  obtain ⟨cause, hfails⟩ | ⟨source, matcher, hvalid, hnew, -, hcompile, hruns⟩ :=
    define_cases compile table name template
  · cases hfails.symm.trans hdefine
  · cases hruns.symm.trans hdefine
    have hfresh : ∀ other ∈ table.names, ∀ added ∈ [name], other ≠ added := by
      intro other hother added hadded heq
      rw [heq, List.mem_singleton.1 hadded] at hother
      exact source?_eq_none_iff.1 hnew hother
    have hnone : table.get? name = none := by
      rw [← Option.isNone_iff_eq_none, ← Option.isSome_eq_false_iff, h.isSome_get?, hnew]
      rfl
    have hmatchers : Dictionary.store name matcher table.matchers =
        table.matchers ++ [(name, matcher)] :=
      Dictionary.store_of_lookup_eq_none matcher hnone
    refine ⟨?_, ?_, ?_⟩
    · rw [hnames]
      exact List.nodup_append.2 ⟨h.nodup, List.pairwise_singleton _ _, hfresh⟩
    · rw [hnames]
      exact List.forall_mem_append.2 ⟨h.valid, List.forall_mem_singleton.2 hvalid⟩
    · show List.Forall₂ _ (putSource name source table).sources
        (Dictionary.store name matcher table.matchers)
      rw [sources_putSource hnew, hmatchers]
      exact List.rel_append h.compiled (.cons ⟨rfl, hcompile⟩ .nil)

/-- One request keeps the invariant. -/
theorem Sound.answer (h : table.Sound compile) (request : Request) :
    (table.answer compile request).2.Sound compile := by
  rcases answer_cases compile table request with ⟨hsame, -⟩ | ⟨_, _, _, _, -, hdefine, hanswer⟩
  · rwa [hsame]
  · rw [hanswer]
    exact h.define hdefine

/-- A whole session keeps the invariant. -/
theorem Sound.answerAll (h : table.Sound compile) (requests : List Request) :
    (table.answerAll compile requests).2.Sound compile := by
  induction requests generalizing table with
  | nil => exact h
  | cons request rest ih => exact ih (h.answer request)

/-! ### Questions -/

theorem get_eq_ok_iff {matcher : μ} : table.get name = .ok matcher ↔
    table.get? name = some matcher := by
  rw [get]
  cases table.get? name with
  | none => simp
  | some found => simp

theorem source_eq_ok_iff {text : List Char} :
    table.source name = .ok text ↔ table.source? name = some text := by
  rw [source]
  cases table.source? name with
  | none => simp
  | some found => simp

theorem isValidName_iff :
    isValidName name = true ↔ name.toList ≠ [] ∧ ∀ c ∈ name.toList, c.isAlpha = true := by
  rw [isValidName, Bool.and_eq_true, decide_eq_true_iff, List.all_eq_true]

/-- A table with the given names, in this order, in whatever way it is asked. -/
structure Holds (compile : Compiler μ) (table : NamedPatterns μ)
    (expected : List String) : Prop where
  names_eq : table.names = expected
  nodup : expected.Nodup
  /-- A name is one or more letters. -/
  letters : ∀ name ∈ expected, name.toList ≠ [] ∧ ∀ c ∈ name.toList, c.isAlpha = true
  size_eq : table.size = expected.length
  contains_iff : ∀ name, table.contains name = true ↔ name ∈ expected
  source_iff : ∀ name, (∃ text, table.source name = .ok text) ↔ name ∈ expected
  get_iff : ∀ name, (∃ matcher, table.get name = .ok matcher) ↔ name ∈ expected
  /-- What is under a name is what its source is compiled to. -/
  compiled : ∀ name text matcher, table.source name = .ok text → table.get name = .ok matcher →
    compile text = some matcher

/-- A sound table gives the same names in whatever way it is asked. -/
theorem Sound.holds (h : table.Sound compile) : table.Holds compile table.names where
  names_eq := rfl
  nodup := h.nodup
  letters name hname := isValidName_iff.1 (h.valid name hname)
  size_eq := by
    rw [size, ← h.compiled.length_eq, names, List.length_map]
  contains_iff name := by
    rw [contains, h.isSome_get?, Option.isSome_iff_exists, mem_names_iff]
  source_iff name := by
    rw [mem_names_iff]
    exact exists_congr fun _ ↦ source_eq_ok_iff
  get_iff name := by
    rw [mem_names_iff, ← Option.isSome_iff_exists, ← h.isSome_get?, Option.isSome_iff_exists]
    exact exists_congr fun _ ↦ get_eq_ok_iff
  compiled name text matcher hsource hget := by
    obtain ⟨hnone, -⟩ | ⟨found, compiled, hfound, hcompiled, hcompile⟩ := h.lookup_cases name
    · cases hnone.symm.trans (source_eq_ok_iff.1 hsource)
    · cases hfound.symm.trans (source_eq_ok_iff.1 hsource)
      cases hcompiled.symm.trans (get_eq_ok_iff.1 hget)
      exact hcompile

/-- **What a session keeps.** A session starts with a table of definitions, the empty one if there
are none, and uses any compiler. Behind any requests, whether they have failed or not, the table
holds exactly the names it started with and those of the definitions that have succeeded since, each
with its source and what the source is compiled to. The next request leaves the table as it is if it
fails or is no definition, and no request changes a source. -/
theorem session_invariant {definitions : List (String × List Char)} {start : NamedPatterns μ}
    (hstart : ofDefinitions compile definitions = .ok start) (requests : List Request) :
    let results := (start.answerAll compile requests).1
    let table := (start.answerAll compile requests).2
    table.Holds compile (definitions.map Prod.fst ++ definedNames requests results) ∧
    (∀ request,
      (request.isDefinition = false ∨ ∃ cause, (table.answer compile request).1 = .error cause) →
      (table.answer compile request).2 = table) ∧
    ∀ more name text, table.source name = .ok text →
      (start.answerAll compile (requests ++ more)).2.source name = .ok text := by
  intro results table
  have hsound : table.Sound compile :=
    (ofDefinitions_induction (fun _ _ _ _ _ hdefine h ↦ h.define hdefine) sound_empty
      hstart).answerAll requests
  have hnames : table.names = definitions.map Prod.fst ++ definedNames requests results := by
    rw [names_answerAll compile start requests, names_of_ofDefinitions hstart]
  refine ⟨hnames ▸ hsound.holds, fun request hrequest ↦ ?_, fun more name text htext ↦ ?_⟩
  · rcases answer_cases compile table request with ⟨hsame, -⟩ | ⟨_, _, _, _, rfl, -, hanswer⟩
    · exact hsame
    · rcases hrequest with hrequest | ⟨cause, hcause⟩
      · cases hrequest
      · rw [hanswer] at hcause
        cases hcause
  · rw [snd_answerAll_append]
    exact source_eq_ok_iff.2 (source?_answerAll (source_eq_ok_iff.1 htext) more)

/-- A definition that fails in each of the four ways between two that succeed. The compiler takes
the sources without a parenthesis. -/
theorem session_invariant_failures :
    let compile : Compiler Nat := fun text ↦ if '(' ∈ text then none else some text.length
    let start : NamedPatterns Nat := ⟨[("d", ['0'])], [("d", 1)]⟩
    let requests : List Request := [
      .define "n" ['a'], .define "n" ['b'], .define "n1" ['a'], .define "m" ['$', 'x'],
      .define "m" ['('], .get "m", .expand ['$', 'n'], .define "m" ['$', 'n', '+'],
      .interpolate ['$', 'q'], .contains "m"]
    let table := (start.answerAll compile requests).2
    ofDefinitions compile [("d", ['0'])] = .ok start ∧
      table.Holds compile ["d", "n", "m"] ∧
      (table.answer compile (.define "n" ['b'])).1 = .error (.alreadyDefined "n") ∧
      (table.answer compile (.define "n" ['b'])).2 = table ∧
      table.source "m" = .ok ['a', '+'] ∧ table.get "m" = .ok 2 ∧
      (start.answerAll compile
        (requests ++ [.define "m" ['c'], .define "p" ['$', 'm']])).2.source "m" =
          .ok ['a', '+'] := by
  intro compile start requests table
  have hstart : ofDefinitions compile [("d", ['0'])] = .ok start := by rfl
  obtain ⟨hholds, hsame, hkept⟩ := session_invariant hstart requests
  have hnames : definedNames requests (start.answerAll compile requests).1 = ["n", "m"] := by rfl
  have hfails : (table.answer compile (.define "n" ['b'])).1 =
    .error (.alreadyDefined "n") := by rfl
  have hsource : table.source "m" = .ok ['a', '+'] := by rfl
  rw [hnames] at hholds
  exact ⟨hstart, hholds, hfails, hsame _ (.inr ⟨_, hfails⟩), hsource, by rfl,
    hkept _ "m" _ hsource⟩

end NamedPatterns

end ScriptForms

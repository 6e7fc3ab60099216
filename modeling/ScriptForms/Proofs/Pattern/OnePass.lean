import ScriptForms.Proofs.Lexicon.Table
import ScriptForms.Proofs.Pattern.Seams

/-!
# Resolution by tables in one pass

What resolution does with a template, told from the template and the sources in the table alone. If
no source makes a seam, resolution is the one-pass substitution, or it fails because the template
refers to a pattern that is not there (`resolve_eq_of_seamFree`). Sources that begin with no letter
make no seams, and the lexicon has only such sources.

With seams there is no such description. A template may fail although it refers only to patterns
that are there, and it may be resolved although it refers to one that is not.
-/

namespace ScriptForms

open Template

namespace NamedPatterns

variable {μ : Type} {compile : Compiler μ} {table : NamedPatterns μ}

/-- Without seams, resolution gives the one-pass substitution, or the template refers to a pattern
that is not there. -/
theorem resolve_eq_of_seamFree (h : Reachable compile table) {template : List Char}
    (hfree : SeamFree table.source? template) :
    ((∀ name, Refers template name → String.ofList name ∈ table.names) ∧
      table.resolve template = .ok (substituteAll table.source? template)) ∨
    ∃ name, Refers template name ∧ String.ofList name ∉ table.names ∧
      table.resolve template = .error (.unresolved (String.ofList name) template) := by
  have hsources := h.referenceFree.of_source?
  rcases h.referenceFree.exists_resolve template with
    ⟨text, rounds, hrun, hresolve, -⟩ | ⟨name, rounds, hrun, hresolve, hname⟩
  · rcases hrun.eq_substituteAll_or_undefined hsources hfree with
      ⟨hdefined, htext⟩ | ⟨_, _, _, herror⟩
    · refine .inl ⟨fun name hrefers ↦ ?_, ?_⟩
      · exact mem_names_iff.2 (hdefined name (mem_references_iff.2 hrefers))
      · rw [hresolve, Except.ok.inj htext]
    · cases herror
  · rcases hrun.eq_substituteAll_or_undefined hsources hfree with
      ⟨-, hok⟩ | ⟨found, hfound, -, herror⟩
    · cases hok
    · obtain rfl : name = String.ofList found := Except.error.inj herror
      exact .inr ⟨found, mem_references_iff.1 hfound, hname, hresolve⟩

/-- Without seams, resolution fails exactly if the template itself refers to a pattern that is not
there. -/
theorem resolve_fails_iff_refers_undefined (h : Reachable compile table)
    {template : List Char} (hfree : SeamFree table.source? template) :
    ((∃ name, table.resolve template = .error (.unresolved name template)) ↔
      ∃ name, Refers template name ∧ String.ofList name ∉ table.names) ∧
    ((∀ name, Refers template name → String.ofList name ∈ table.names) →
      ∃ text, table.resolve template = .ok text) := by
  rcases resolve_eq_of_seamFree h hfree with ⟨hdefined, hok⟩ | ⟨name, hrefers, hundefined, herror⟩
  · refine ⟨⟨?_, ?_⟩, fun _ ↦ ⟨_, hok⟩⟩
    · rintro ⟨name, herror⟩
      cases hok.symm.trans herror
    · rintro ⟨name, hrefers, hundefined⟩
      exact absurd (hdefined name hrefers) hundefined
  · refine ⟨⟨fun _ ↦ ⟨name, hrefers, hundefined⟩, fun _ ↦ ⟨_, herror⟩⟩, fun hdefined ↦ ?_⟩
    exact absurd (hdefined name hrefers) hundefined

/-- References side by side, one of them to an empty source, the others to one that begins with a
letter; and such a source behind a dollar sign, to which resolution does not get. -/
theorem resolve_fails_iff_refers_undefined_adjacent :
    let table := (empty.attempt Pattern.compile? "e" []).attempt Pattern.compile? "n" ['a', 'b']
    Reachable Pattern.compile? table ∧
      (SeamFree table.source? ['$', 'e', '$', 'n', '$', 'n'] ∧
        ∃ text, table.resolve ['$', 'e', '$', 'n', '$', 'n'] = .ok text) ∧
      SeamFree table.source? ['$', 'x', '$', '$', 'n'] ∧
        ∃ name, table.resolve ['$', 'x', '$', '$', 'n'] =
          .error (.unresolved name ['$', 'x', '$', '$', 'n']) := by
  intro table
  have htable : Reachable Pattern.compile? table := .attempt (.attempt .empty _ _) _ _
  have hfirst : SeamFree table.source? ['$', 'e', '$', 'n', '$', 'n'] := by decide +kernel
  have hsecond : SeamFree table.source? ['$', 'x', '$', '$', 'n'] := by decide +kernel
  refine ⟨htable, ⟨hfirst, ?_⟩, hsecond, ?_⟩
  · refine (resolve_fails_iff_refers_undefined htable hfirst).2 fun name hname ↦ ?_
    have hall : ∀ name ∈ references ['$', 'e', '$', 'n', '$', 'n'],
        String.ofList name ∈ table.names := by decide +kernel
    exact hall name (mem_references_iff.2 hname)
  · refine (resolve_fails_iff_refers_undefined htable hsecond).1.2 ⟨['x'], ?_, by decide +kernel⟩
    exact mem_references_iff.1 (by decide +kernel)

/-- Seams make and change references. All references of the first template are defined, but between
the two sources a new one arises, to a pattern that is not there. The second template refers to `x`,
which is not there either, but behind it comes a source that makes the name longer. -/
theorem resolve_across_seams :
    let table := ((empty.attempt Pattern.compile? "m" ['a', '$']).attempt
      Pattern.compile? "n" ['a']).attempt Pattern.compile? "xa" ['-']
    Reachable Pattern.compile? table ∧
      ((∀ name, Refers ['$', 'm', '$', 'm'] name → String.ofList name ∈ table.names) ∧
        table.resolve ['$', 'm', '$', 'm'] = .error (.unresolved "a" ['$', 'm', '$', 'm'])) ∧
      (Refers ['$', 'n', '$', 'x', '$', 'n'] ['x'] ∧ "x" ∉ table.names) ∧
        table.resolve ['$', 'n', '$', 'x', '$', 'n'] = .ok ['a', '-'] := by
  intro table
  have htable : Reachable Pattern.compile? table :=
    .attempt (.attempt (.attempt .empty _ _) _ _) _ _
  refine ⟨htable, ⟨fun name hname ↦ ?_, by decide +kernel⟩, ⟨?_, by decide +kernel⟩,
    by decide +kernel⟩
  · have hall : ∀ name ∈ references ['$', 'm', '$', 'm'],
        String.ofList name ∈ table.names := by decide +kernel
    exact hall name (mem_references_iff.2 hname)
  · exact mem_references_iff.1 (by decide +kernel)

/-! ### Sources that begin with no letter -/

/-- The lexicon is a table of definitions. -/
theorem reachable_lexicon : Reachable Pattern.compile? lexicon :=
  .ofDefinitions Lexicon.isExpected_lexicon.1

/-- If no source begins with a letter, as in the lexicon, resolution is the one-pass substitution,
and it fails if the template refers to a pattern that is not there. -/
theorem resolve_eq_substituteAll :
    (Reachable Pattern.compile? lexicon ∧
      ∀ entry ∈ lexicon.sources, startsWithLetter entry.2 = false) ∧
    ∀ (μ : Type) (compile : Compiler μ) (table : NamedPatterns μ), Reachable compile table →
      (∀ entry ∈ table.sources, startsWithLetter entry.2 = false) → ∀ template : List Char,
        ((∀ name, Refers template name → String.ofList name ∈ table.names) →
          table.resolve template = .ok (substituteAll table.source? template)) ∧
        ((∃ name, Refers template name ∧ String.ofList name ∉ table.names) →
          ∃ name, table.resolve template = .error (.unresolved name template)) := by
  refine ⟨⟨reachable_lexicon, fun entry ↦ Lexicon.startsWithLetter_of_mem_lexicon⟩, ?_⟩
  intro μ compile table htable hstart template
  have hfree : SeamFree table.source? template := by
    refine seamFree_of_no_letter (fun name value hvalue ↦ ?_) template
    exact hstart _ (mem_sources_of_source? hvalue)
  rcases resolve_eq_of_seamFree htable hfree with
    ⟨hdefined, hok⟩ | ⟨name, hrefers, hundefined, herror⟩
  · refine ⟨fun _ ↦ hok, ?_⟩
    rintro ⟨name, hrefers, hundefined⟩
    exact absurd (hdefined name hrefers) hundefined
  · refine ⟨fun hdefined ↦ ?_, fun _ ↦ ⟨_, herror⟩⟩
    exact absurd (hdefined name hrefers) hundefined

/-- A source that ends in a dollar sign, an empty one, and a dollar sign and a backslash in the
template. -/
theorem resolve_eq_substituteAll_dollars :
    let table := (empty.attempt Pattern.compile? "d" ['.', '$']).attempt Pattern.compile? "e" []
    Reachable Pattern.compile? table ∧
      (∀ entry ∈ table.sources, startsWithLetter entry.2 = false) ∧
      table.resolve ['$', 'd', '$', '$', 'e', '$', 'd', '\\'] =
        .ok ['.', '$', '$', '.', '$', '\\'] ∧
      ∃ name, table.resolve ['$', 'd', '$', 'x'] =
        .error (.unresolved name ['$', 'd', '$', 'x']) := by
  intro table
  have htable : Reachable Pattern.compile? table := .attempt (.attempt .empty _ _) _ _
  have hstart : ∀ entry ∈ table.sources, startsWithLetter entry.2 = false := by decide +kernel
  refine ⟨htable, hstart, ?_, ?_⟩
  · have hall : ∀ name ∈ references ['$', 'd', '$', '$', 'e', '$', 'd', '\\'],
        String.ofList name ∈ table.names := by decide +kernel
    rw [(resolve_eq_substituteAll.2 _ _ table htable hstart _).1 fun name hname ↦
      hall name (mem_references_iff.2 hname)]
    decide +kernel
  · refine (resolve_eq_substituteAll.2 _ _ table htable hstart _).2 ⟨['x'], ?_, by decide +kernel⟩
    exact mem_references_iff.1 (by decide +kernel)

end NamedPatterns

end ScriptForms

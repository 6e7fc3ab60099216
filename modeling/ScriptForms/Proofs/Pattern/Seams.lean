import ScriptForms.Proofs.Pattern.Resolution
import ScriptForms.Proofs.Pattern.Segments

/-!
# Resolution and seams

Resolution replaces one name after the other, in the order in which the names come up in the
template. After some rounds the text should be a `stage`: the segments of the template, with the
sources in the places of the references to the names that are done. What can go wrong is a seam. A
source that begins with a letter may be put right behind a dollar sign, which becomes a reference,
or right behind a reference that is still there, which becomes one to a longer name.

`SeamFree` says that this does not happen, by looking at the segments in front of each reference
that a letter takes the place of. Then the segments of every stage are apart (`isCut_stage`), so a
round leads from one stage to the next (`substitute_stage`), and a run of the loop ends with the
one-pass substitution or with a name of the template that has no source
(`Resolves.eq_substituteAll_or_undefined`).
-/

namespace ScriptForms

namespace Template

variable {source? : String → Option (List Char)} {order done : List (List Char)}

/-! ### The condition on seams -/

/-- Whether a source that begins with a letter can take the place of a reference to `name`, behind
the segments `before`, the nearest of which comes first. It can behind a character other than a
dollar sign. Behind a reference it can if that one comes up first in `order`, so that it is replaced
no later, and its source does not end in a dollar sign; an empty source leaves the decision to what
stands before. -/
def takesLetter (source? : String → Option (List Char)) (order : List (List Char))
    (name : List Char) : List Segment → Bool
  | [] => true
  | .char c :: _ => c != '$'
  | .reference other :: before =>
    order.idxOf other ≤ order.idxOf name &&
      (source? (String.ofList other)).all fun value ↦
        if value = [] then takesLetter source? order name before else value.getLast? != some '$'

/-- Whether resolution puts a letter in the place of a reference to `name`: the source begins with
one, and the names that come up before `name` in `order` all have sources, so that resolution gets
to it. -/
def putsLetter (source? : String → Option (List Char)) (order : List (List Char))
    (name : List Char) : Bool :=
  (source? (String.ofList name)).any startsWithLetter &&
    (order.take (order.idxOf name)).all fun other ↦ (source? (String.ofList other)).isSome

/-- Whether each source that puts a letter can take its place among the segments behind `before`. -/
def seamFreeAfter (source? : String → Option (List Char)) (order : List (List Char)) :
    List Segment → List Segment → Bool
  | _, [] => true
  | before, .char c :: rest => seamFreeAfter source? order (.char c :: before) rest
  | before, .reference name :: rest =>
    (!putsLetter source? order name || takesLetter source? order name before) &&
      seamFreeAfter source? order (.reference name :: before) rest

/-- Resolution puts no source that begins with a letter right behind a dollar sign or a reference
that is still to be replaced. -/
def SeamFree (source? : String → Option (List Char)) (template : List Char) : Prop :=
  seamFreeAfter source? (references template) [] (segments template) = true

instance (template : List Char) : Decidable (SeamFree source? template) :=
  inferInstanceAs (Decidable (_ = true))

/-- Sources that begin with no letter make no seams, since a seam takes a letter. -/
theorem seamFree_of_no_letter (h : ∀ name value, source? name = some value →
    startsWithLetter value = false) (template : List Char) : SeamFree source? template := by
  have hafter : ∀ order before after, seamFreeAfter source? order before after = true := by
    intro order before after
    induction after generalizing before with
    | nil => rfl
    | cons part rest ih =>
      cases part with
      | char c => exact ih _
      | reference name =>
        have hnot : (source? (String.ofList name)).any startsWithLetter = false := by
          rcases hsource : source? (String.ofList name) with - | value
          · rfl
          · exact h _ value hsource
        rw [seamFreeAfter, putsLetter, hnot, ih]
        rfl
  exact hafter _ _ _

/-! ### Stages -/

/-- A segment at a stage, when the references to the names in `done` are replaced. -/
def Segment.stage (source? : String → Option (List Char)) (done : List (List Char)) :
    Segment → List Segment
  | .char c => [.char c]
  | .reference name =>
    if name ∈ done then ((source? (String.ofList name)).getD []).map .char else [.reference name]

/-- Several segments at a stage. -/
def stage (source? : String → Option (List Char)) (done : List (List Char)) (parts : List Segment) :
    List Segment :=
  parts.flatMap (Segment.stage source? done)

/-- The names that can be done after some rounds: they have sources, and a name that comes up
earlier than one of them is done too. -/
structure IsStage (source? : String → Option (List Char))
    (order done : List (List Char)) : Prop where
  defined : ∀ name ∈ done, ∃ value, source? (String.ofList name) = some value
  closed : ∀ name ∈ done, ∀ other, order.idxOf other ≤ order.idxOf name → other ∈ done

/-- A letter behind these segments, the nearest of which comes first, would belong to a reference:
at this stage they end in a dollar sign or in a reference. -/
def Opens (source? : String → Option (List Char)) (done : List (List Char)) : List Segment → Prop
  | [] => False
  | .char c :: _ => c = '$'
  | .reference name :: before =>
    ∀ value, name ∈ done → source? (String.ofList name) = some value →
      (value = [] ∧ Opens source? done before) ∨ value.getLast? = some '$'

/-- Where a source takes a letter, what stands before it does not end in a dollar sign. -/
theorem not_opens_of_takesLetter (hstage : IsStage source? order done) {name : List Char}
    (hname : name ∈ done) {before : List Segment}
    (h : takesLetter source? order name before = true) : ¬Opens source? done before := by
  induction before with
  | nil => exact id
  | cons part before ih =>
    cases part with
    | char c =>
      have hc : c ≠ '$' := by simpa [takesLetter] using h
      exact hc
    | reference other =>
      simp only [takesLetter, Bool.and_eq_true, decide_eq_true_eq] at h
      obtain ⟨horder, hvalue⟩ := h
      have hother : other ∈ done := hstage.closed name hname other horder
      obtain ⟨value, hsource⟩ := hstage.defined other hother
      rw [hsource, Option.all_some] at hvalue
      intro hopens
      rcases hopens value hother hsource with ⟨rfl, hbefore⟩ | hlast
      · exact ih (by simpa using hvalue) hbefore
      · have hne : value ≠ [] := by
          rintro rfl
          cases hlast
        rw [if_neg hne, hlast] at hvalue
        exact absurd hvalue (by decide)

theorem idxOf_lt_of_mem_take {name : List Char} {count : Nat} (h : name ∈ order.take count) :
    order.idxOf name < count := by
  have hlt : (order.take count).idxOf name < (order.take count).length :=
    List.idxOf_lt_length_of_mem h
  have hle := List.length_take_le count order
  calc order.idxOf name
    _ = (order.take count ++ order.drop count).idxOf name := by rw [List.take_append_drop]
    _ = (order.take count).idxOf name := by rw [List.idxOf_append, if_pos h]
    _ < count := by omega

/-- Resolution has got to the names that are done. -/
theorem putsLetter_of_mem_done (hstage : IsStage source? order done) {name value : List Char}
    (hname : name ∈ done) (hsource : source? (String.ofList name) = some value) :
    putsLetter source? order name = startsWithLetter value := by
  have hearlier : ∀ other ∈ order.take (order.idxOf name),
      (source? (String.ofList other)).isSome = true := by
    intro other hother
    have hdone := hstage.closed name hname other (Nat.le_of_lt (idxOf_lt_of_mem_take hother))
    obtain ⟨value, hvalue⟩ := hstage.defined other hdone
    rw [hvalue]
    rfl
  rw [putsLetter, List.all_eq_true.2 hearlier, hsource, Option.any_some, Bool.and_true]

theorem textOf_append (first second : List Segment) :
    textOf (first ++ second) = textOf first ++ textOf second :=
  List.flatMap_append

theorem textOf_map_char (value : List Char) : textOf (value.map .char) = value := by
  induction value with
  | nil => rfl
  | cons c rest ih => exact congrArg (c :: ·) ih

theorem stage_char (c : Char) (rest : List Segment) :
    stage source? done (.char c :: rest) = .char c :: stage source? done rest :=
  rfl

/-- A reference to a name that is not done stays. -/
theorem stage_pending {name : List Char} (h : name ∉ done) (rest : List Segment) :
    stage source? done (.reference name :: rest) = .reference name :: stage source? done rest := by
  rw [stage, List.flatMap_cons, Segment.stage, if_neg h]
  rfl

/-- A reference to a name that is done has become the source. -/
theorem stage_done {name value : List Char} (h : name ∈ done)
    (hsource : source? (String.ofList name) = some value) (rest : List Segment) :
    stage source? done (.reference name :: rest) = value.map .char ++ stage source? done rest := by
  rw [stage, List.flatMap_cons, Segment.stage, if_pos h, hsource]
  rfl

/-- Behind a dollar sign or a reference, a stage puts no letter. -/
theorem startsWithLetter_stage (hstage : IsStage source? order done) {before after : List Segment}
    (hopens : Opens source? done before)
    (hfree : seamFreeAfter source? order before after = true) (hcut : IsCut after)
    (hstart : startsWithLetter (textOf after) = false) :
    startsWithLetter (textOf (stage source? done after)) = false := by
  induction after generalizing before with
  | nil => rfl
  | cons part rest ih =>
    cases part with
    | char c => exact hstart
    | reference name =>
      obtain ⟨-, hrest, hcut⟩ := hcut
      simp only [seamFreeAfter, Bool.and_eq_true, Bool.or_eq_true, Bool.not_eq_true'] at hfree
      obtain ⟨hletter, hfree⟩ := hfree
      by_cases hname : name ∈ done
      · obtain ⟨value, hsource⟩ := hstage.defined name hname
        rw [stage_done hname hsource, textOf_append, textOf_map_char]
        rw [putsLetter_of_mem_done hstage hname hsource] at hletter
        rcases hletter with hletter | htakes
        · cases value with
          | nil =>
            -- nothing comes between what is open and the next segment
            have hstill : Opens source? done (.reference name :: before) := fun value _ hvalue ↦
              .inl ⟨Option.some.inj (hvalue.symm.trans hsource), hopens⟩
            exact ih hstill hfree hcut hrest
          | cons c value => exact hletter
        · exact absurd hopens (not_opens_of_takesLetter hstage hname htakes)
      · rw [stage_pending hname]
        rfl

/-- A text without references in front of segments that are apart: only its end matters. -/
theorem isCut_map_char_append {value : List Char} {rest : List Segment}
    (hvalue : ¬HasReference value)
    (hrest : IsCut rest) (hend : value.getLast? = some '$' →
      startsWithLetter (textOf rest) = false) :
    IsCut (value.map .char ++ rest) := by
  induction value with
  | nil => exact hrest
  | cons c value ih =>
    rw [List.map_cons, List.cons_append]
    cases value with
    | nil =>
      refine ⟨fun hc ↦ hend ?_, hrest⟩
      rw [hc, List.getLast?_singleton]
    | cons d value =>
      have hnext : ¬HasReference (d :: value) := not_hasReference_of_cons hvalue
      refine ⟨?_, ih hnext fun hlast ↦ hend (by rwa [List.getLast?_cons_cons])⟩
      rintro rfl
      have hd : startsWithLetter (d :: value) = false := startsWithLetter_eq_false_of_dollar hvalue
      exact hd

/-- If there are no seams, the segments of a stage are apart. -/
theorem isCut_stage (hstage : IsStage source? order done)
    (hsources : ∀ name value, source? name = some value → ¬HasReference value)
    {before after : List Segment} (hfree : seamFreeAfter source? order before after = true)
    (hcut : IsCut after) : IsCut (stage source? done after) := by
  induction after generalizing before with
  | nil => trivial
  | cons part rest ih =>
    cases part with
    | char c =>
      refine ⟨fun hc ↦ ?_, ih hfree hcut.2⟩
      have hopens : Opens source? done (.char c :: before) := hc
      exact startsWithLetter_stage hstage hopens hfree hcut.2 (hcut.1 hc)
    | reference name =>
      obtain ⟨hletters, hrest, hcut⟩ := hcut
      simp only [seamFreeAfter, Bool.and_eq_true] at hfree
      by_cases hname : name ∈ done
      · obtain ⟨value, hsource⟩ := hstage.defined name hname
        rw [stage_done hname hsource]
        refine isCut_map_char_append (hsources _ _ hsource) (ih hfree.2 hcut) fun hlast ↦ ?_
        have hopens : Opens source? done (.reference name :: before) := by
          intro other _ hother
          rw [Option.some.inj (hother.symm.trans hsource)]
          exact .inr hlast
        exact startsWithLetter_stage hstage hopens hfree.2 hcut hrest
      · have hopens : Opens source? done (.reference name :: before) := fun _ hdone ↦
          absurd hdone hname
        rw [stage_pending hname]
        exact ⟨hletters, startsWithLetter_stage hstage hopens hfree.2 hcut hrest, ih hfree.2 hcut⟩

/-! ### From stage to stage -/

theorem names_map_char_append (value : List Char) (rest : List Segment) :
    (value.map Segment.char ++ rest).filterMap Segment.name? = rest.filterMap Segment.name? := by
  induction value with
  | nil => rfl
  | cons c value ih => exact ih

theorem names_reference (name : List Char) (rest : List Segment) :
    (.reference name :: rest).filterMap Segment.name? = name :: rest.filterMap Segment.name? :=
  rfl

/-- The references of a stage are those of the template that are not done. -/
theorem names_stage (parts : List Segment) (hdefined : ∀ name ∈ done, ∃ value,
    source? (String.ofList name) = some value) :
    (stage source? done parts).filterMap Segment.name? =
      (parts.filterMap Segment.name?).filter (· ∉ done) := by
  induction parts with
  | nil => rfl
  | cons part rest ih =>
    cases part with
    | char c => exact ih
    | reference name =>
      by_cases hname : name ∈ done
      · obtain ⟨value, hsource⟩ := hdefined name hname
        rw [stage_done hname hsource, names_map_char_append, ih, names_reference,
          List.filter_cons_of_neg (by simpa using hname)]
      · rw [stage_pending hname, names_reference, ih, names_reference,
          List.filter_cons_of_pos (by simpa using hname)]

theorem flatMap_map_char (name value source : List Char) :
    ((source.map Segment.char).flatMap fun part ↦
      if part = .reference name then value else part.text) = source := by
  induction source with
  | nil => rfl
  | cons c rest ih => exact congrArg (c :: ·) ih

/-- Substituting for the next name leads to the next stage. -/
theorem substitute_stage {name value : List Char} (hname : name ≠ []) (hpending : name ∉ done)
    (hsource : source? (String.ofList name) = some value) {parts : List Segment}
    (hcut : IsCut (stage source? done parts)) :
    substitute name value (textOf (stage source? done parts)) =
      textOf (stage source? (name :: done) parts) := by
  rw [substitute_eq_flatMap hname, segments_textOf hcut, stage, stage, textOf, List.flatMap_assoc,
    List.flatMap_assoc]
  congr 1
  funext part
  cases part with
  | char c => rfl
  | reference other =>
    by_cases hother : other ∈ done
    · rw [Segment.stage, if_pos hother, Segment.stage, if_pos (List.mem_cons_of_mem _ hother),
        flatMap_map_char]
      exact (textOf_map_char _).symm
    · by_cases heq : other = name
      · subst heq
        rw [Segment.stage, if_neg hother, Segment.stage, if_pos List.mem_cons_self, hsource,
          List.flatMap_singleton, if_pos rfl]
        exact (textOf_map_char value).symm
      · have hnot : other ∉ name :: done := fun hmem ↦ (List.mem_cons.1 hmem).elim heq hother
        have hne : Segment.reference other ≠ .reference name :=
          fun h ↦ heq (Segment.reference.inj h)
        rw [Segment.stage, if_neg hother, Segment.stage, if_neg hnot, List.flatMap_singleton,
          if_neg hne, List.flatMap_singleton]

/-- The next name is the first one in `order` that is not done. -/
theorem IsStage.next (hstage : IsStage source? order done) {name value : List Char}
    (hfirst : order.find? (· ∉ done) = some name)
    (hsource : source? (String.ofList name) = some value) :
    IsStage source? order (name :: done) := by
  obtain ⟨hpending, earlier, later, rfl, hearlier⟩ := List.find?_eq_some_iff_append.1 hfirst
  have hdone : ∀ other ∈ earlier, other ∈ done := by simpa using hearlier
  have hnew : name ∉ earlier := fun hmem ↦ absurd (hdone name hmem) (by simpa using hpending)
  refine ⟨?_, ?_⟩
  · intro other hother
    rcases List.mem_cons.1 hother with rfl | hother
    · exact ⟨value, hsource⟩
    · exact hstage.defined other hother
  · intro current hcurrent other hle
    rcases List.mem_cons.1 hcurrent with rfl | hcurrent
    · -- up to the next name, everything is done
      by_cases hmem : other ∈ earlier
      · exact List.mem_cons_of_mem _ (hdone other hmem)
      · rw [List.idxOf_append, if_neg hmem, List.idxOf_append, if_neg hnew,
          List.idxOf_cons_self] at hle
        have hzero : (current :: later).idxOf other = 0 := by omega
        rw [List.idxOf_cons] at hzero
        by_cases heq : current = other
        · exact heq ▸ List.mem_cons_self
        · rw [beq_false_of_ne heq] at hzero
          exact absurd hzero (Nat.succ_ne_zero _)
    · exact List.mem_cons_of_mem _ (hstage.closed current hcurrent other hle)

/-- When all names are done, the stage is the one-pass substitution. -/
theorem textOf_stage_of_done {parts : List Segment}
    (h : ∀ name ∈ parts.filterMap Segment.name?, name ∈ done) :
    textOf (stage source? done parts) = parts.flatMap (Segment.value source?) := by
  induction parts with
  | nil => rfl
  | cons part rest ih =>
    cases part with
    | char c =>
      rw [stage_char, List.flatMap_cons, ← ih h]
      rfl
    | reference name =>
      have hname : name ∈ done := h name List.mem_cons_self
      rw [stage, List.flatMap_cons, textOf_append, ← stage, List.flatMap_cons,
        ih fun other hother ↦ h other (List.mem_cons_of_mem _ hother), Segment.stage, if_pos hname,
        textOf_map_char]
      rfl

/-- The first reference of a stage is to the first name in the template that is not done. -/
theorem firstReference_stage (hstage : IsStage source? order done) {parts : List Segment}
    (hcut : IsCut (stage source? done parts)) :
    firstReference? (textOf (stage source? done parts)) =
      (parts.filterMap Segment.name?).find? (· ∉ done) := by
  rw [firstReference_eq_head_references, references, segments_textOf hcut,
    names_stage parts hstage.defined, List.head?_filter]

/-! ### Whole runs -/

/-- A run from a stage of a template without seams ends with the one-pass substitution, if all names
have sources, and otherwise with a name that has none. -/
theorem Resolves.of_stage {template text : List Char} {rounds : Nat}
    {result : Except String (List Char)}
    (hsources : ∀ name value, source? name = some value → ¬HasReference value)
    (hfree : SeamFree source? template) (h : Resolves source? text rounds result)
    {done : List (List Char)} (hstage : IsStage source? (references template) done)
    (htext : text = textOf (stage source? done (segments template))) :
    ((∀ name ∈ references template, ∃ value, source? (String.ofList name) = some value) ∧
      result = .ok (substituteAll source? template)) ∨
    ∃ name ∈ references template, source? (String.ofList name) = none ∧
      result = .error (String.ofList name) := by
  induction h generalizing done with
  | done hfirst =>
    have hcut := isCut_stage hstage hsources hfree (isCut_segments template)
    subst htext
    rw [firstReference_stage hstage hcut, List.find?_eq_none] at hfirst
    have hdone : ∀ name ∈ references template, name ∈ done := by simpa [references] using hfirst
    refine .inl ⟨fun name hname ↦ hstage.defined name (hdone name hname), ?_⟩
    rw [textOf_stage_of_done hdone]
    rfl
  | unresolved hfirst hsource =>
    have hcut := isCut_stage hstage hsources hfree (isCut_segments template)
    subst htext
    rw [firstReference_stage hstage hcut] at hfirst
    exact .inr ⟨_, List.mem_of_find?_eq_some hfirst, hsource, rfl⟩
  | round hfirst hsource _ ih =>
    have hcut := isCut_stage hstage hsources hfree (isCut_segments template)
    subst htext
    have hne := ne_nil_of_firstReference hfirst
    rw [firstReference_stage hstage hcut] at hfirst
    have hpending := List.find?_some hfirst
    exact ih (hstage.next hfirst hsource)
      (substitute_stage hne (by simpa using hpending) hsource hcut)

/-- By the stages: the run ends when all names are done, or at the first name that has no source. -/
theorem Resolves.eq_substituteAll_or_undefined {template : List Char} {rounds : Nat}
    {result : Except String (List Char)}
    (hsources : ∀ name value, source? name = some value → ¬HasReference value)
    (hfree : SeamFree source? template) (h : Resolves source? template rounds result) :
    ((∀ name ∈ references template, ∃ value, source? (String.ofList name) = some value) ∧
      result = .ok (substituteAll source? template)) ∨
    ∃ name ∈ references template, source? (String.ofList name) = none ∧
      result = .error (String.ofList name) := by
  have hstart : IsStage source? (references template) [] := ⟨nofun, nofun⟩
  have hstage : ∀ parts : List Segment, stage source? [] parts = parts := by
    intro parts
    induction parts with
    | nil => rfl
    | cons part rest ih =>
      cases part with
      | char c => rw [stage_char, ih]
      | reference name => rw [stage_pending List.not_mem_nil, ih]
  refine h.of_stage hsources hfree hstart ?_
  rw [hstage, textOf_segments]

end Template

end ScriptForms

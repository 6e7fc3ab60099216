import Mathlib.Data.List.TakeWhile
import ScriptForms.Proofs.Pattern.References

/-!
# Templates in segments

A template is cut into segments from left to right. A dollar sign with letters behind it is a
reference together with all of these letters, and any other character is a segment of its own.
`references` are the names that the template refers to, in order, and `substituteAll` puts the
sources in their places in one pass over the segments.

Two facts determine the cut. The segments make up the text (`textOf_segments`), and they are apart:
neither a reference nor a dollar sign that stands for itself has a letter right behind it
(`isCut_segments`). So a list of segments that are apart is the cut of its own text
(`segments_textOf`). Looking for the first reference and substituting for one name are then
operations on segments (`firstReference_eq_head_references`, `substitute_eq_flatMap`).
-/

namespace ScriptForms

namespace Template

/-- A piece of a template. -/
inductive Segment where
  /-- A character that stands for itself. -/
  | char (c : Char)
  /-- A reference to the pattern with the given name. -/
  | reference (name : List Char)
  deriving DecidableEq, Repr

/-- The text of a segment. -/
def Segment.text : Segment → List Char
  | char c => [c]
  | reference name => '$' :: name

/-- The name that a segment refers to. -/
def Segment.name? : Segment → Option (List Char)
  | char _ => none
  | reference name => some name

/-- What stands in the place of a segment when the sources are put in: a character stays as it
is. -/
def Segment.value (source? : String → Option (List Char)) : Segment → List Char
  | char c => [c]
  | reference name => (source? (String.ofList name)).getD []

/-- The text of several segments. -/
def textOf (parts : List Segment) : List Char :=
  parts.flatMap Segment.text

/-- The segments of a text, after `skip` characters that are left out. -/
def segmentsAfter : Nat → List Char → List Segment
  | _, [] => []
  | skip + 1, _ :: rest => segmentsAfter skip rest
  | 0, c :: rest =>
    if c = '$' ∧ startsWithLetter rest = true then
      .reference (rest.takeWhile Char.isAlpha) ::
        segmentsAfter (rest.takeWhile Char.isAlpha).length rest
    else .char c :: segmentsAfter 0 rest

/-- The segments of a text. -/
def segments (text : List Char) : List Segment :=
  segmentsAfter 0 text

/-- The names that a text refers to, in order, as often as it does. -/
def references (text : List Char) : List (List Char) :=
  (segments text).filterMap Segment.name?

/-- The text with each reference replaced by its source, in one pass. -/
def substituteAll (source? : String → Option (List Char)) (text : List Char) : List Char :=
  (segments text).flatMap (Segment.value source?)

/-- The text holds a dollar sign, right behind it the letters of `name`, and no letter behind
these. -/
def Refers (text name : List Char) : Prop :=
  ∃ before after, text = before ++ '$' :: (name ++ after) ∧ name ≠ [] ∧
    (∀ c ∈ name, c.isAlpha = true) ∧ startsWithLetter after = false

/-! ### Runs of letters -/

theorem drop_length_takeWhile (text : List Char) :
    text.drop (text.takeWhile Char.isAlpha).length = text.dropWhile Char.isAlpha := by
  have happend : text.takeWhile Char.isAlpha ++ text.dropWhile Char.isAlpha = text :=
    List.takeWhile_append_dropWhile
  calc text.drop (text.takeWhile Char.isAlpha).length
    _ = (text.takeWhile Char.isAlpha ++ text.dropWhile Char.isAlpha).drop
        (text.takeWhile Char.isAlpha).length := by rw [happend]
    _ = text.dropWhile Char.isAlpha := List.drop_left

theorem takeWhile_eq_nil {text : List Char} (h : startsWithLetter text = false) :
    text.takeWhile Char.isAlpha = [] := by
  by_contra hne
  have hstart : startsWithLetter text = true := takeWhile_ne_nil_iff.1 hne
  exact Bool.false_ne_true (h.symm.trans hstart)

theorem dropWhile_eq_self {text : List Char} (h : startsWithLetter text = false) :
    text.dropWhile Char.isAlpha = text := by
  have happend : text.takeWhile Char.isAlpha ++ text.dropWhile Char.isAlpha = text :=
    List.takeWhile_append_dropWhile
  rwa [takeWhile_eq_nil h, List.nil_append] at happend

theorem startsWithLetter_dropWhile (text : List Char) :
    startsWithLetter (text.dropWhile Char.isAlpha) = false := by
  induction text with
  | nil => rfl
  | cons c rest ih =>
    by_cases hc : c.isAlpha = true
    · rwa [List.dropWhile_cons_of_pos hc]
    · rw [List.dropWhile_cons_of_neg hc]
      exact Bool.eq_false_iff.2 hc

theorem startsWithLetter_append {name : List Char} (hne : name ≠ [])
    (hname : ∀ c ∈ name, c.isAlpha = true) (text : List Char) :
    startsWithLetter (name ++ text) = true := by
  obtain ⟨c, rest, rfl⟩ := List.exists_cons_of_ne_nil hne
  exact hname c List.mem_cons_self

/-- A name with no letter behind it is read as it is. -/
theorem takeWhile_name_append {name text : List Char} (hname : ∀ c ∈ name, c.isAlpha = true)
    (h : startsWithLetter text = false) : (name ++ text).takeWhile Char.isAlpha = name := by
  rw [List.takeWhile_append_of_pos hname, takeWhile_eq_nil h, List.append_nil]

theorem dropWhile_name_append {name text : List Char} (hname : ∀ c ∈ name, c.isAlpha = true)
    (h : startsWithLetter text = false) : (name ++ text).dropWhile Char.isAlpha = text := by
  rw [List.dropWhile_append_of_pos hname, dropWhile_eq_self h]

/-- A run of letters ends in front of a dollar sign. -/
theorem dropWhile_append_dollar (before text : List Char) :
    (before ++ '$' :: text).dropWhile Char.isAlpha =
      before.dropWhile Char.isAlpha ++ '$' :: text := by
  induction before with
  | nil => exact dropWhile_eq_self rfl
  | cons c rest ih =>
    rw [List.cons_append, List.dropWhile_cons, List.dropWhile_cons]
    split
    · exact ih
    · rfl

/-! ### Equations of the cut -/

/-- Cutting after some characters is cutting what is behind them. -/
theorem segmentsAfter_eq (skip : Nat) (text : List Char) :
    segmentsAfter skip text = segments (text.drop skip) := by
  induction text generalizing skip with
  | nil => cases skip <;> rfl
  | cons c rest ih =>
    cases skip with
    | zero => rfl
    | succ skip => exact ih skip

/-- A reference is cut off with all letters of its name. -/
theorem segments_reference {rest : List Char} (h : startsWithLetter rest = true) :
    segments ('$' :: rest) =
      .reference (rest.takeWhile Char.isAlpha) :: segments (rest.dropWhile Char.isAlpha) := by
  rw [← drop_length_takeWhile, ← segmentsAfter_eq]
  exact if_pos ⟨rfl, h⟩

theorem segments_char {c : Char} {rest : List Char}
    (h : ¬(c = '$' ∧ startsWithLetter rest = true)) :
    segments (c :: rest) = .char c :: segments rest :=
  if_neg h

/-- Induction on a text along its segments. -/
@[elab_as_elim]
theorem segmentInduction {motive : List Char → Prop} (text : List Char) (nil : motive [])
    (reference : ∀ rest, startsWithLetter rest = true → motive (rest.dropWhile Char.isAlpha) →
      motive ('$' :: rest))
    (char : ∀ c rest, ¬(c = '$' ∧ startsWithLetter rest = true) → motive rest →
      motive (c :: rest)) : motive text := by
  induction hlength : text.length using Nat.strong_induction_on generalizing text with
  | _ length ih =>
    cases text with
    | nil => exact nil
    | cons c rest =>
      have hrest : rest.length < length := hlength ▸ Nat.lt_succ_self _
      by_cases h : c = '$' ∧ startsWithLetter rest = true
      · obtain ⟨rfl, hstart⟩ := h
        have hdrop : (rest.dropWhile Char.isAlpha).length ≤ rest.length :=
          (List.dropWhile_sublist _).length_le
        exact reference rest hstart (ih _ (by omega) _ rfl)
      · exact char c rest h (ih _ hrest rest rfl)

/-- The segments make up the text. -/
theorem textOf_segments (text : List Char) : textOf (segments text) = text := by
  induction text using segmentInduction with
  | nil => rfl
  | reference rest h ih =>
    rw [segments_reference h]
    show '$' :: (rest.takeWhile Char.isAlpha ++ textOf (segments (rest.dropWhile Char.isAlpha))) = _
    rw [ih, List.takeWhile_append_dropWhile]
  | char c rest h ih =>
    rw [segments_char h]
    exact congrArg (c :: ·) ih

/-- The segments are apart: a reference consists of a dollar sign and letters, and no letter stands
behind a reference or behind a dollar sign that stands for itself. -/
def IsCut : List Segment → Prop
  | [] => True
  | .char c :: rest => (c = '$' → startsWithLetter (textOf rest) = false) ∧ IsCut rest
  | .reference name :: rest =>
    (name ≠ [] ∧ ∀ c ∈ name, c.isAlpha = true) ∧ startsWithLetter (textOf rest) = false ∧ IsCut rest

/-- Cutting a text leaves no reference across segments. -/
theorem isCut_segments (text : List Char) : IsCut (segments text) := by
  induction text using segmentInduction with
  | nil => trivial
  | reference rest h ih =>
    rw [segments_reference h]
    refine ⟨⟨takeWhile_ne_nil_iff.2 h, fun c hc ↦ List.mem_takeWhile_imp hc⟩, ?_, ih⟩
    rw [textOf_segments]
    exact startsWithLetter_dropWhile rest
  | char c rest h ih =>
    rw [segments_char h]
    refine ⟨fun hc ↦ ?_, ih⟩
    rw [textOf_segments]
    exact Bool.eq_false_iff.2 fun hstart ↦ h ⟨hc, hstart⟩

/-- Segments that are apart are the cut of their own text. -/
theorem segments_textOf {parts : List Segment} (h : IsCut parts) :
    segments (textOf parts) = parts := by
  induction parts with
  | nil => rfl
  | cons part rest ih =>
    cases part with
    | char c =>
      obtain ⟨hdollar, hrest⟩ := h
      have hnot : ¬(c = '$' ∧ startsWithLetter (textOf rest) = true) := fun hc ↦
        Bool.false_ne_true ((hdollar hc.1).symm.trans hc.2)
      show segments (c :: textOf rest) = _
      rw [segments_char hnot, ih hrest]
    | reference name =>
      obtain ⟨⟨hne, hname⟩, hstart, hrest⟩ := h
      show segments ('$' :: (name ++ textOf rest)) = _
      rw [segments_reference (startsWithLetter_append hne hname _),
        takeWhile_name_append hname hstart, dropWhile_name_append hname hstart, ih hrest]

/-! ### References -/

theorem references_reference {rest : List Char} (h : startsWithLetter rest = true) :
    references ('$' :: rest) =
      rest.takeWhile Char.isAlpha :: references (rest.dropWhile Char.isAlpha) := by
  rw [references, segments_reference h]
  rfl

theorem references_char {c : Char} {rest : List Char}
    (h : ¬(c = '$' ∧ startsWithLetter rest = true)) :
    references (c :: rest) = references rest := by
  rw [references, segments_char h]
  rfl

theorem not_refers_nil (name : List Char) : ¬Refers [] name := by
  rintro ⟨before, after, h, -⟩
  exact List.append_ne_nil_of_right_ne_nil _ (List.cons_ne_nil _ _) h.symm

/-- A text in front does not change the references behind it. -/
theorem refers_append {text name : List Char} (before : List Char) (h : Refers text name) :
    Refers (before ++ text) name := by
  obtain ⟨inner, after, rfl, hname⟩ := h
  exact ⟨before ++ inner, after, (List.append_assoc _ _ _).symm, hname⟩

/-- A text that begins with a reference refers to its name, and to those behind. -/
theorem refers_reference_iff {rest name : List Char} (h : startsWithLetter rest = true) :
    Refers ('$' :: rest) name ↔
      name = rest.takeWhile Char.isAlpha ∨ Refers (rest.dropWhile Char.isAlpha) name := by
  constructor
  · rintro ⟨before, after, htext, hne, hname, hafter⟩
    cases before with
    | nil =>
      obtain rfl : rest = name ++ after := List.tail_eq_of_cons_eq htext
      exact .inl (takeWhile_name_append hname hafter).symm
    | cons c before =>
      obtain rfl : rest = before ++ '$' :: (name ++ after) := List.tail_eq_of_cons_eq htext
      exact .inr ⟨_, after, dropWhile_append_dollar before _, hne, hname, hafter⟩
  · rintro (rfl | hrefers)
    · refine ⟨[], rest.dropWhile Char.isAlpha, ?_, takeWhile_ne_nil_iff.2 h,
        fun c hc ↦ List.mem_takeWhile_imp hc, startsWithLetter_dropWhile rest⟩
      rw [List.takeWhile_append_dropWhile, List.nil_append]
    · have hsplit : '$' :: rest =
          ('$' :: rest.takeWhile Char.isAlpha) ++ rest.dropWhile Char.isAlpha := by
        rw [List.cons_append, List.takeWhile_append_dropWhile]
      rw [hsplit]
      exact refers_append _ hrefers

theorem refers_char_iff {c : Char} {rest name : List Char}
    (h : ¬(c = '$' ∧ startsWithLetter rest = true)) :
    Refers (c :: rest) name ↔ Refers rest name := by
  constructor
  · rintro ⟨before, after, htext, hne, hname, hafter⟩
    cases before with
    | nil =>
      obtain ⟨rfl, rfl⟩ : c = '$' ∧ rest = name ++ after := List.cons_eq_cons.1 htext
      exact absurd ⟨rfl, startsWithLetter_append hne hname after⟩ h
    | cons d before =>
      exact ⟨before, after, List.tail_eq_of_cons_eq htext, hne, hname, hafter⟩
  · exact refers_append [c]

/-- The names that are listed are those that the text refers to. -/
theorem mem_references_iff {text name : List Char} : name ∈ references text ↔ Refers text name := by
  induction text using segmentInduction with
  | nil => exact ⟨fun h ↦ absurd h List.not_mem_nil, fun h ↦ absurd h (not_refers_nil name)⟩
  | reference rest h ih => rw [references_reference h, List.mem_cons, ih, refers_reference_iff h]
  | char c rest h ih => rw [references_char h, ih, refers_char_iff h]

/-! ### The first reference and substitution, by segments -/

/-- The first reference is the first of the list. -/
theorem firstReference_eq_head_references (text : List Char) :
    firstReference? text = (references text).head? := by
  induction text using segmentInduction with
  | nil => rfl
  | reference rest h ih =>
    rw [firstReference_cons, if_pos ⟨rfl, h⟩, references_reference h, List.head?_cons]
  | char c rest h ih => rw [firstReference_cons, if_neg h, references_char h, ih]

/-- Letters that follow no dollar sign are kept. -/
theorem substitute_letters {letters : List Char} (hletters : ∀ c ∈ letters, c.isAlpha = true)
    (name value text : List Char) :
    substitute name value (letters ++ text) = letters ++ substitute name value text := by
  induction letters with
  | nil => rfl
  | cons c rest ih =>
    have hc : c ≠ '$' := ne_dollar_of_isAlpha (hletters c List.mem_cons_self)
    rw [List.cons_append, substitute_cons value fun h ↦ hc h.1,
      ih fun d hd ↦ hletters d (List.mem_cons_of_mem _ hd), List.cons_append]

/-- Substituting for a name replaces the segments that refer to it. -/
theorem substitute_eq_flatMap {name : List Char} (hname : name ≠ []) (value text : List Char) :
    substitute name value text =
      (segments text).flatMap fun part ↦ if part = .reference name then value else part.text := by
  induction text using segmentInduction with
  | nil => rfl
  | reference rest h ih =>
    rw [segments_reference h, List.flatMap_cons, ← ih]
    by_cases hmatch : rest.takeWhile Char.isAlpha = name
    · rw [substitute_reference value hmatch, if_pos (congrArg Segment.reference hmatch)]
    · have hother : Segment.reference (rest.takeWhile Char.isAlpha) ≠ .reference name :=
        fun heq ↦ hmatch (Segment.reference.inj heq)
      rw [substitute_cons value fun hc ↦ hmatch hc.2, if_neg hother]
      show _ = '$' :: (rest.takeWhile Char.isAlpha ++ _)
      rw [← substitute_letters fun c hc ↦ List.mem_takeWhile_imp hc,
        List.takeWhile_append_dropWhile]
  | char c rest h ih =>
    -- a match of the name would make the dollar sign a reference
    have hkept : ¬(c = '$' ∧ rest.takeWhile Char.isAlpha = name) := fun hc ↦
      h ⟨hc.1, takeWhile_ne_nil_iff.1 (hc.2 ▸ hname)⟩
    rw [segments_char h, List.flatMap_cons, ← ih, substitute_cons value hkept,
      if_neg Segment.noConfusion]
    rfl

end Template

end ScriptForms

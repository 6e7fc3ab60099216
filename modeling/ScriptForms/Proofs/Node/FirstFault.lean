import ScriptForms.Node.Json
import ScriptForms.Proofs.Except

/-!
# What is read, and what is reported

Which values are read as nodes is said here without reading them. Reading comes to the values of a
tree in a fixed order (`Json.visited`): a value before the items that belong to it, and the items
from left to right. Each of these values may have a fault of its own (`Json.fault?`), which does not
depend on what is inside its items. A tree is read if and only if none of them has one, and
otherwise the first fault in this order is reported, with the value that has it.

The faults are described by lists of tags. That these are the tags that reading knows is
`Tag.ofName?_cases`; what an entry without items gives away is `failure?_ofEntry`, and the induction
along a tree is `failure?_ofJson`.
-/

namespace ScriptForms

/-- What may be wrong with a value. -/
inductive NodeFault where
  /-- It is no tag and no object with one entry, or its tag is unknown. -/
  | noNode
  /-- The content of a sequence is neither a list nor `true`. -/
  | sequenceContent
  /-- The content of a text is no scalar. -/
  | textContent
  deriving DecidableEq, Repr

namespace NodeFault

/-- The error that reports a fault of a value. -/
def cause : NodeFault → Json → NodeError
  | noNode => .unknownJson
  | sequenceContent => .sequencePayload
  | textContent => .scalarPayload

/-- What a message says ahead of the value. -/
def lead : NodeFault → String
  | noNode => "Unknown AST node type: "
  | sequenceContent => "Expected a sequence payload in "
  | textContent => "Expected a scalar payload in "

/-- The wording of a fault ends with the value at fault. -/
theorem message_cause (fault : NodeFault) (value : Json) :
    (fault.cause value).message = fault.lead ++ value.display := by
  cases fault <;> rfl

end NodeFault

namespace Json

/-- The tags whose content is a list of items. -/
def sequenceTags : List String :=
  ["Lst", "Vec", "Map", "Pairs", "Forms", "pairs", "forms"]

/-- The tags whose content is a text. -/
def textTags : List String :=
  ["Str", "Chr", "Spc", "Sym", "Tok", "Key", "Int", "Flt"]

/-- The tags that take any content. -/
def otherTags : List String :=
  ["Empty", "Nil", "Bln"]

mutual

/-- The values that reading comes to, in order. A bare tag is short for the tag with the content
`true`. -/
def visited : Json → List Json
  | arr items => arr items :: visitedAll items
  | str name => [obj [(name, bool true)]]
  | obj [(name, arr items)] =>
    obj [(name, arr items)] :: if name ∈ sequenceTags then visitedAll items else []
  | value => [value]

/-- The values that reading comes to in several values. -/
def visitedAll : List Json → List Json
  | [] => []
  | item :: rest => visited item ++ visitedAll rest

end

/-- Whether the value may be the content of a sequence: a list, or `true` for no items. -/
def isSequenceContent : Json → Bool
  | arr _ => true
  | bool value => value
  | _ => false

/-- Whether the value is a string, a number or a truth value. -/
def isScalar : Json → Bool
  | null => false
  | arr _ => false
  | obj _ => false
  | _ => true

/-- What is wrong with an object that has one entry. -/
def entryFault? (name : String) (content : Json) : Option NodeFault :=
  if name ∈ sequenceTags then
    if content.isSequenceContent then none else some .sequenceContent
  else if name ∈ textTags then
    if content.isScalar then none else some .textContent
  else if name ∈ otherTags then none
  else some .noNode

/-- What is wrong with a value itself, whatever is inside its items. -/
def fault? : Json → Option NodeFault
  | arr _ => none
  | str name => entryFault? name (bool true)
  | obj [(name, content)] => entryFault? name content
  | _ => some .noNode

/-- The error that a value gives rise to. -/
def offence? (value : Json) : Option NodeError :=
  value.fault?.map (·.cause value)

end Json

/-! ### Tags -/

/-- The known tags are those of sequences, those of texts and three more. -/
theorem Tag.ofName?_cases (name : String) :
    (name ∈ Json.sequenceTags ∧ ∃ kind, ofName? name = some (.seq kind)) ∨
      (name ∉ Json.sequenceTags ∧ name ∈ Json.textTags ∧ ∃ kind, ofName? name = some (.text kind)) ∨
      (name ∉ Json.sequenceTags ∧ name ∉ Json.textTags ∧ name ∈ Json.otherTags ∧
        (ofName? name = some .empty ∨ ofName? name = some .nil ∨ ofName? name = some .bool)) ∨
      (name ∉ Json.sequenceTags ∧ name ∉ Json.textTags ∧ name ∉ Json.otherTags ∧
        ofName? name = none) := by
  unfold ofName?
  split <;> simp_all [Json.sequenceTags, Json.textTags, Json.otherTags]

/-- The names of sequences are those that stand for a kind of sequence. -/
theorem Tag.mem_sequenceTags_iff {name : String} :
    name ∈ Json.sequenceTags ↔ ∃ kind, ofName? name = some (.seq kind) := by
  rcases ofName?_cases name with ⟨h, hkind⟩ | ⟨h, -, kind, hkind⟩ | ⟨h, -, -,
    hkind | hkind | hkind⟩ |
    ⟨h, -, -, hkind⟩
  · exact iff_of_true h hkind
  all_goals simp [h, hkind]

namespace Node

open Json

/-! ### Reading -/

/-- An entry that brings no items to read fails by its own fault. -/
theorem failure?_ofEntry {name : String} {content : Json}
    (h : name ∈ sequenceTags → ∀ items, content ≠ .arr items) :
    failure? (ofEntry name content) = offence? (.obj [(name, content)]) := by
  unfold ofEntry
  rw [offence?, fault?, entryFault?]
  rcases Tag.ofName?_cases name with ⟨hseq, kind, hkind⟩ | ⟨hseq, htext, kind, hkind⟩ |
    ⟨hseq, htext, hother, hkind⟩ | ⟨hseq, htext, hother, hkind⟩
  · rw [hkind, if_pos hseq]
    cases content with
    | arr items => exact absurd rfl (h hseq items)
    | bool value => cases value <;> rfl
    | _ => rfl
  · rw [hkind, if_neg hseq, if_pos htext]
    cases content <;> rfl
  · rw [if_neg hseq, if_neg htext, if_pos hother]
    rcases hkind with hkind | hkind | hkind
    · rw [hkind]; rfl
    · rw [hkind]; rfl
    · rw [hkind]
      cases content <;> rfl
  · rw [hkind, if_neg hseq, if_neg htext, if_neg hother]
    rfl

/-- Reading fails with the first offence among the values that it comes to. -/
theorem failure?_ofJson (raw : Json) : failure? (ofJson raw) = raw.visited.findSome? offence? := by
  refine ofJson.induct (fun raw ↦ failure? (ofJson raw) = raw.visited.findSome? offence?)
    (fun items ↦ failure? (ofJsonItems items) = (visitedAll items).findSome? offence?)
    ?group ?tag ?sequence ?list ?entry ?other ?nil ?cons raw
  case group =>
    intro items ih
    rw [ofJson, failure?_map, ih]
    rfl
  case tag =>
    intro name
    rw [ofJson, visited, List.findSome?_singleton]
    exact failure?_ofEntry fun _ items ↦ Json.noConfusion
  case sequence =>
    intro name items kind hkind ih
    have hname : name ∈ sequenceTags := Tag.mem_sequenceTags_iff.2 ⟨kind, hkind⟩
    have hfault : offence? (.obj [(name, .arr items)]) = none := by
      rw [offence?, fault?, entryFault?, if_pos hname]
      rfl
    rw [ofJson, hkind, visited, if_pos hname, List.findSome?_cons, hfault]
    show failure? ((ofJsonItems items).map (seq kind)) = _
    rw [failure?_map, ih]
  case list =>
    intro name items hkind
    have hname : name ∉ sequenceTags := fun hmem ↦ by
      obtain ⟨kind, hseq⟩ := Tag.mem_sequenceTags_iff.1 hmem
      exact hkind kind hseq
    have hentry : ofJson (.obj [(name, .arr items)]) = ofEntry name (.arr items) := by
      unfold ofJson
      split
      · next kind hseq => exact (hkind kind hseq).elim
      · rfl
    rw [hentry, visited, if_neg hname, List.findSome?_singleton]
    exact failure?_ofEntry fun hmem ↦ absurd hmem hname
  case entry =>
    intro name content hcontent
    have hentry : ofJson (.obj [(name, content)]) = ofEntry name content ∧
        visited (.obj [(name, content)]) = [.obj [(name, content)]] := by
      cases content with
      | arr items => exact (hcontent items rfl).elim
      | _ => exact ⟨rfl, rfl⟩
    rw [hentry.1, hentry.2, List.findSome?_singleton]
    exact failure?_ofEntry fun _ ↦ hcontent
  case other =>
    intro raw harr hstr _ hobj
    cases raw with
    | arr items => exact (harr items rfl).elim
    | str name => exact (hstr name rfl).elim
    | obj entries =>
      cases entries with
      | nil => rfl
      | cons first rest =>
        obtain ⟨name, content⟩ := first
        cases rest with
        | nil => exact (hobj name content rfl).elim
        | cons second rest => cases content <;> rfl
    | _ => rfl
  case nil => rfl
  case cons =>
    intro item rest hitem hrest
    rw [ofJsonItems, visitedAll, List.findSome?_append, ← hitem, ← hrest]
    cases ofJson item with
    | error cause => rfl
    | ok node => cases ofJsonItems rest <;> rfl

/-- The check of one value finds exactly its fault. -/
theorem offence?_eq_some_iff {value : Json} {cause : NodeError} :
    offence? value = some cause ↔ ∃ fault, value.fault? = some fault ∧
      cause = fault.cause value := by
  rw [offence?, Option.map_eq_some_iff]
  exact exists_congr fun fault ↦ and_congr_right fun _ ↦ eq_comm

theorem offence?_eq_none_iff {value : Json} : offence? value = none ↔ value.fault? = none :=
  Option.map_eq_none_iff

/-- **Reading takes exactly the trees without faults, and reports the first one.** A value is read
as a node if and only if nothing that reading comes to has a fault. Otherwise the error is the one
for the first fault in the order of reading, and its message quotes the value that has it. -/
theorem ofJson_reports_first_fault (raw : Json) :
    ((∃ node, ofJson raw = .ok node) ↔ ∀ value ∈ raw.visited, value.fault? = none) ∧
    ((∃ cause, ofJson raw = .error cause) ↔ ∃ value ∈ raw.visited, value.fault? ≠ none) ∧
    ∀ cause, ofJson raw = .error cause ↔
      ∃ before value after fault, raw.visited = before ++ value :: after ∧
        (∀ earlier ∈ before, earlier.fault? = none) ∧ value.fault? = some fault ∧
        cause = fault.cause value ∧ cause.message = fault.lead ++ value.display := by
  have hok : (∃ node, ofJson raw = .ok node) ↔ ∀ value ∈ raw.visited, value.fault? = none := by
    rw [← failure?_eq_none_iff, failure?_ofJson, List.findSome?_eq_none_iff]
    exact forall₂_congr fun _ _ ↦ offence?_eq_none_iff
  have herror : ∀ cause, ofJson raw = .error cause ↔
      ∃ before value after, raw.visited = before ++ value :: after ∧ offence? value = some cause ∧
        ∀ earlier ∈ before, offence? earlier = none := by
    intro cause
    rw [← failure?_eq_some_iff, failure?_ofJson, List.findSome?_eq_some_iff]
  refine ⟨hok, ?_, fun cause ↦ ⟨?_, ?_⟩⟩
  · constructor
    · rintro ⟨cause, hcause⟩
      obtain ⟨before, value, after, hvisited, hvalue, -⟩ := (herror cause).1 hcause
      obtain ⟨fault, hfault, -⟩ := offence?_eq_some_iff.1 hvalue
      have hmem : value ∈ raw.visited := hvisited ▸ List.mem_append_right before List.mem_cons_self
      exact ⟨value, hmem, hfault ▸ Option.some_ne_none fault⟩
    · rintro ⟨value, hvalue, hfault⟩
      cases hread : ofJson raw with
      | error cause => exact ⟨cause, rfl⟩
      | ok node => exact absurd (hok.1 ⟨node, hread⟩ value hvalue) hfault
  · intro hcause
    obtain ⟨before, value, after, hvisited, hvalue, hbefore⟩ := (herror cause).1 hcause
    obtain ⟨fault, hfault, rfl⟩ := offence?_eq_some_iff.1 hvalue
    exact ⟨before, value, after, fault, hvisited,
      fun earlier hearlier ↦ offence?_eq_none_iff.1 (hbefore earlier hearlier), hfault, rfl,
      fault.message_cause value⟩
  · rintro ⟨before, value, after, fault, hvisited, hbefore, hfault, hcause, -⟩
    exact (herror cause).2 ⟨before, value, after, hvisited,
      offence?_eq_some_iff.2 ⟨fault, hfault, hcause⟩,
      fun earlier hearlier ↦ offence?_eq_none_iff.2 (hbefore earlier hearlier)⟩

/-- Of a text without a scalar, an unknown tag and a null, the one that comes first is reported.
Contents that do not matter are not looked into, and a bare tag is quoted with its content. -/
example :
    let text : Json := .obj [("Sym", .arr [.null])]
    let skipped : Json := .obj [("Nil", .arr [.null])]
    failure?
      (ofJson (.obj [("pairs", .arr [skipped, .arr [.str "Lst", text], .str "lst", .null])])) =
        some (.scalarPayload text) ∧
      failure? (ofJson (.arr [skipped, .str "lst", text])) =
        some (.unknownJson (.obj [("lst", .bool true)])) :=
  ⟨rfl, rfl⟩

end Node

end ScriptForms

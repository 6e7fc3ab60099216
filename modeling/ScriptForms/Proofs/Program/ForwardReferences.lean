import Mathlib.Data.List.Basic
import Mathlib.Data.List.Sort
import ScriptForms.Proofs.Program.Completion

/-!
# Which functions are mentioned ahead

A walk through a program comes across events: where a `defn` list stands, its function is defined,
ahead of everything inside the list, and where a symbol stands, its name is mentioned.
`forwardReferences` walks with two records, and this module says what it finds without them: those
of the given names that are mentioned before all their definitions, each once, in the order of their
first mentions (`IsForwardList`).

The walk keeps pace with the events (`Walk.Follows`): at every point, what it knows is what was
defined so far, and what it has recorded is right for the events so far. One node adds at most one
event, behind which the record either stays right (`IsForwardList.concat`) or has to grow by one
name (`IsForwardList.record`). There is only one such list, so neither the order of the given names
nor how often they are given matters.
-/

namespace ScriptForms

/-- The name of a symbol. -/
def Node.symbolName? : Node → Option String
  | sym name => some name
  | _ => none

namespace Program

/-- What a walk comes across. -/
inductive Event where
  /-- A function is defined from here on. -/
  | definition (name : String)
  /-- A name is mentioned. -/
  | mention (name : String)
  deriving DecidableEq, Repr

/-- The events at a node itself. -/
def Event.ofNode (node : Node) : List Event :=
  (node.functionName?.map definition).toList ++ (node.symbolName?.map mention).toList

/-- The events of a program, those at a node ahead of those at its items. -/
def events (program : Program) : List Event :=
  (Node.walkAll program.forms).flatMap Event.ofNode

/-- Some mention of `name` has no definition of it ahead. -/
def MentionedAhead (events : List Event) (name : String) : Prop :=
  ∃ before after, events = before ++ .mention name :: after ∧ .definition name ∉ before

/-- `found` lists those of `names` that are mentioned ahead of their definitions. -/
structure IsForwardList (events : List Event) (names found : List String) : Prop where
  /-- No name stands in the list twice. -/
  nodup : found.Nodup
  mem_iff : ∀ name, name ∈ found ↔ name ∈ names ∧ MentionedAhead events name
  /-- The names stand in the order of their first mentions. -/
  order : found.Pairwise fun first second ↦
    events.idxOf (.mention first) < events.idxOf (.mention second)

/-! ### Mentions ahead -/

theorem MentionedAhead.mem {events : List Event} {name : String} (h : MentionedAhead events name) :
    .mention name ∈ events := by
  obtain ⟨before, after, rfl, -⟩ := h
  exact List.mem_append_right _ List.mem_cons_self

/-- Where a name is not defined, every mention of it is ahead. -/
theorem mentionedAhead_of_mem {events : List Event} {name : String}
    (hmention : .mention name ∈ events)
    (hdefinition : .definition name ∉ events) : MentionedAhead events name := by
  obtain ⟨before, after, rfl⟩ := List.append_of_mem hmention
  exact ⟨before, after, rfl, fun hmem ↦ hdefinition (List.mem_append_left _ hmem)⟩

/-- One more event makes a difference only if it mentions the name and no definition was met. -/
theorem mentionedAhead_concat_iff {events : List Event} {event : Event} {name : String} :
    MentionedAhead (events ++ [event]) name ↔
      MentionedAhead events name ∨ (event = .mention name ∧ .definition name ∉ events) := by
  constructor
  · rintro ⟨before, after, hevents, hbefore⟩
    rcases List.eq_nil_or_concat after with rfl | ⟨init, last, rfl⟩
    · obtain ⟨rfl, hlast⟩ := List.append_inj' hevents rfl
      exact .inr ⟨List.singleton_inj.1 hlast, hbefore⟩
    · rw [List.concat_eq_append, ← List.cons_append, ← List.append_assoc] at hevents
      obtain ⟨rfl, -⟩ := List.append_inj' hevents rfl
      exact .inl ⟨before, init, rfl, hbefore⟩
  · rintro (⟨before, after, rfl, hbefore⟩ | ⟨rfl, hdefinition⟩)
    · exact ⟨before, after ++ [event], by rw [List.append_assoc, List.cons_append], hbefore⟩
    · exact ⟨events, [], rfl, hdefinition⟩

namespace IsForwardList

variable {events : List Event} {names found : List String}

theorem mention_mem (h : IsForwardList events names found) {name : String} (hname : name ∈ found) :
    .mention name ∈ events :=
  ((h.mem_iff name).1 hname).2.mem

/-- The names that were found keep their order when more events come. -/
theorem order_append (h : IsForwardList events names found) (more : List Event) :
    found.Pairwise fun first second ↦
      (events ++ more).idxOf (.mention first) < (events ++ more).idxOf (.mention second) := by
  refine h.order.imp_of_mem fun {first second} hfirst hsecond hlt ↦ ?_
  rw [List.idxOf_append_of_mem (h.mention_mem hfirst),
    List.idxOf_append_of_mem (h.mention_mem hsecond)]
  exact hlt

/-- An event that brings no new name leaves the list right. -/
theorem concat (h : IsForwardList events names found) {event : Event}
    (hevent : ∀ name ∈ names, event = .mention name → .definition name ∉ events → name ∈ found) :
    IsForwardList (events ++ [event]) names found where
  nodup := h.nodup
  mem_iff name := by
    rw [mentionedAhead_concat_iff]
    constructor
    · intro hfound
      obtain ⟨hname, hahead⟩ := (h.mem_iff name).1 hfound
      exact ⟨hname, .inl hahead⟩
    · rintro ⟨hname, hahead | ⟨hmention, hdefinition⟩⟩
      · exact (h.mem_iff name).2 ⟨hname, hahead⟩
      · exact hevent name hname hmention hdefinition
  order := h.order_append [event]

/-- A mention of a name that is neither defined nor found yet belongs at the end of the list. -/
theorem record (h : IsForwardList events names found) {name : String} (hname : name ∈ names)
    (hdefinition : .definition name ∉ events) (hfound : name ∉ found) :
    IsForwardList (events ++ [.mention name]) names (found ++ [name]) := by
  have hmention : .mention name ∉ events := fun hmem ↦
    hfound ((h.mem_iff name).2 ⟨hname, mentionedAhead_of_mem hmem hdefinition⟩)
  refine ⟨?_, fun other ↦ ?_, ?_⟩
  · exact List.nodup_append'.2 ⟨h.nodup, List.nodup_singleton name,
      List.disjoint_singleton.2 hfound⟩
  · rw [List.mem_append, List.mem_singleton, mentionedAhead_concat_iff, h.mem_iff,
      Event.mention.injEq]
    constructor
    · rintro (⟨hother, hahead⟩ | rfl)
      · exact ⟨hother, .inl hahead⟩
      · exact ⟨hname, .inr ⟨rfl, hdefinition⟩⟩
    · rintro ⟨hother, hahead | ⟨rfl, -⟩⟩
      · exact .inl ⟨hother, hahead⟩
      · exact .inr rfl
  · refine List.pairwise_append.2 ⟨h.order_append _, List.pairwise_singleton _ _, ?_⟩
    intro first hfirst last hlast
    -- the first mention of the new name is the last event
    have hmem := h.mention_mem hfirst
    have hlt := List.idxOf_lt_length_iff.2 hmem
    rw [List.mem_singleton.1 hlast, List.idxOf_append_of_mem hmem,
      List.idxOf_append_of_notMem hmention]
    omega

/-- There is one such list, and only the members of `names` matter. -/
theorem unique {others found' : List String} (h : IsForwardList events names found)
    (h' : IsForwardList events others found') (hnames : ∀ name, name ∈ others ↔ name ∈ names) :
    found = found' := by
  have hperm : found.Perm found' := by
    refine (List.perm_ext_iff_of_nodup h.nodup h'.nodup).2 fun name ↦ ?_
    rw [h.mem_iff, h'.mem_iff, hnames]
  refine List.Perm.eq_of_pairwise (fun first second _ _ hlt hgt ↦ ?_) h.order h'.order hperm
  exact absurd hgt (Nat.lt_asymm hlt)

end IsForwardList

/-! ### The walk -/

namespace Walk

/-- What meeting a node does: nothing, or a function becomes known, or a name is mentioned, and
recorded if it is asked for, not known and not recorded yet. -/
theorem meet_cases (names : List String) (node : Node) (walk : Walk) :
    (Event.ofNode node = [] ∧ walk.meet names node = walk) ∨
      (∃ name, Event.ofNode node = [.definition name] ∧
        walk.meet names node = ⟨name :: walk.known, walk.early⟩) ∨
      ∃ name, Event.ofNode node = [.mention name] ∧
        ((name ∈ names ∧ name ∉ walk.known ∧ name ∉ walk.early ∧
            walk.meet names node = ⟨walk.known, walk.early ++ [name]⟩) ∨
          ((name ∈ names → name ∉ walk.known → name ∈ walk.early) ∧
            walk.meet names node = walk)) := by
  cases node with
  | text kind content =>
    cases kind with
    | symbol =>
      refine .inr (.inr ⟨content, rfl, ?_⟩)
      by_cases hnew : content ∈ names ∧ content ∉ walk.known ∧ content ∉ walk.early
      · obtain ⟨hname, hknown, hearly⟩ := hnew
        exact .inl ⟨hname, hknown, hearly, if_pos (by simp [hname, hknown, hearly])⟩
      · refine .inr ⟨fun hname hknown ↦ ?_, if_neg (by simpa [and_assoc] using hnew)⟩
        by_contra hearly
        exact hnew ⟨hname, hknown, hearly⟩
    | _ => exact .inl ⟨rfl, rfl⟩
  | seq kind items =>
    unfold Event.ofNode meet
    cases (Node.seq kind items).functionName? with
    | none => exact .inl ⟨rfl, rfl⟩
    | some name => exact .inr (.inl ⟨name, rfl, rfl⟩)
  | _ => exact .inl ⟨rfl, rfl⟩

/-- The walk has come across these events: it knows what was defined, and its record is right. -/
structure Follows (names : List String) (events : List Event) (walk : Walk) : Prop where
  mem_known : ∀ name, name ∈ walk.known ↔ .definition name ∈ events
  early : IsForwardList events names walk.early

/-- Meeting a node keeps pace with its events. -/
theorem Follows.meet {names : List String} {events : List Event} {walk : Walk}
    (h : Follows names events walk) (node : Node) :
    Follows names (events ++ Event.ofNode node) (walk.meet names node) := by
  rcases meet_cases names node walk with ⟨hevents, hmeet⟩ | ⟨name, hevents, hmeet⟩ |
    ⟨name, hevents, ⟨hname, hknown, hearly, hmeet⟩ | ⟨hold, hmeet⟩⟩
  all_goals rw [hevents, hmeet]
  · rwa [List.append_nil]
  · refine ⟨fun other ↦ ?_, h.early.concat fun _ _ hevent ↦ ?_⟩
    · rw [List.mem_cons, List.mem_append, List.mem_singleton, Event.definition.injEq, h.mem_known,
        or_comm]
    · cases hevent
  · have hdefinition : .definition name ∉ events := fun hmem ↦ hknown ((h.mem_known name).2 hmem)
    exact ⟨fun other ↦ by simp [h.mem_known], h.early.record hname hdefinition hearly⟩
  · refine ⟨fun other ↦ by simp [h.mem_known],
      h.early.concat fun other hother hevent hdefinition ↦ ?_⟩
    cases hevent
    exact hold hother fun hmem ↦ hdefinition ((h.mem_known name).1 hmem)

/-- By induction on the nodes, each of which adds its events. -/
theorem Follows.meetAll {names : List String} {events : List Event} {walk : Walk}
    (h : Follows names events walk) (nodes : List Node) :
    Follows names (events ++ nodes.flatMap Event.ofNode) (Walk.meetAll names nodes walk) := by
  induction nodes generalizing events walk with
  | nil =>
    rw [List.flatMap_nil, List.append_nil]
    exact h
  | cons node rest ih =>
    rw [List.flatMap_cons, ← List.append_assoc]
    exact ih (h.meet node)

/-- A walk that has not begun has come across nothing. -/
theorem follows_nil (names : List String) : Follows names [] ⟨[], []⟩ := by
  have hnone : ∀ name, ¬MentionedAhead [] name := fun name hahead ↦ List.not_mem_nil hahead.mem
  refine ⟨fun name ↦ iff_of_false List.not_mem_nil List.not_mem_nil, List.nodup_nil, fun name ↦ ?_,
    List.Pairwise.nil⟩
  exact iff_of_false List.not_mem_nil fun h ↦ hnone name h.2

end Walk

/-- The walk through the whole program finds the forward references. -/
theorem isForwardList_forwardReferences (program : Program) (names : List String) :
    IsForwardList program.events names (program.forwardReferences names) := by
  rw [forwardReferences, Walk.visitAll_eq_meetAll]
  exact ((Walk.follows_nil names).meetAll (Node.walkAll program.forms)).early

/-- **Forward references are the names mentioned ahead.** What is found is the one list of those of
the given names that are mentioned before they are defined, without repetitions and in the order of
their first mentions. So it does not matter in which order and how often the names are given. -/
theorem forwardReferences_eq_iff (program : Program) (names : List String) :
    (∀ found, program.forwardReferences names = found ↔ IsForwardList program.events names found) ∧
      ∀ others : List String, (∀ name, name ∈ others ↔ name ∈ names) →
        program.forwardReferences others = program.forwardReferences names := by
  have hright := isForwardList_forwardReferences program names
  refine ⟨fun found ↦ ⟨?_, fun hfound ↦ hright.unique hfound fun _ ↦ Iff.rfl⟩,
    fun others hothers ↦ ?_⟩
  · rintro rfl
    exact hright
  · exact (hright.unique (isForwardList_forwardReferences program others) hothers).symm

/-- Functions that are mentioned in other definitions, around their own and inside a vector, one of
them again behind it, and a name that nothing defines; asked for in another order and repeatedly. -/
theorem forwardReferences_eq_iff_nested :
    let program : Program :=
      ⟨[.list [.sym "defn", .sym "f", .vector [.sym "g"], .sym "f"], .sym "h",
      .list [.sym "do", .sym "g", .list [.sym "defn", .sym "g"]], .sym "k",
      .list [.sym "defn", .sym "h", .sym "h"], .sym "f"]⟩
    program.forwardReferences ["k", "h", "g", "f"] = ["g", "h", "k"] ∧
      IsForwardList program.events ["k", "h", "g", "f"] ["g", "h", "k"] ∧
      program.forwardReferences ["f", "g", "f", "h", "k", "k"] = ["g", "h", "k"] := by
  intro program
  have hfound : program.forwardReferences ["k", "h", "g", "f"] = ["g", "h", "k"] := by decide
  obtain ⟨hiff, hothers⟩ := forwardReferences_eq_iff program ["k", "h", "g", "f"]
  refine ⟨hfound, (hiff _).1 hfound, ?_⟩
  rw [hothers ["f", "g", "f", "h", "k", "k"] (by simp [or_comm, or_left_comm]), hfound]

end Program

end ScriptForms

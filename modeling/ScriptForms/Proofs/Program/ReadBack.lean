import ScriptForms.Program
import ScriptForms.Proofs.Except
import ScriptForms.Proofs.Node.Canonical
import ScriptForms.Proofs.Node.Reader

/-!
# Reading a program back

The text of a program determines its forms, up to what is never written: the kind of a scalar other
than a string, and the last item of a map that has no partner. `Node.normal` takes these two away. A
program whose scalars are all written as tokens is read back as its forms in normal form, so two
such programs have the same text only if their forms have the same normal forms.
-/

namespace ScriptForms

namespace Node

/-- The text of a scalar, unless it is a string. -/
def atomText? : Node → Option String
  | seq _ _ => none
  | group _ => none
  | text .string _ => none
  | node => node.print.toOption

mutual

/-- The node with each scalar but the strings replaced by a token that carries its text, and without
the items of maps that have no partner. -/
def normal : Node → Node
  | seq .map items => seq .map (normalPairs items)
  | seq kind items => seq kind (normalItems items)
  | node => node.atomText?.elim node (text .token)

/-- Several nodes in normal form. -/
def normalItems : List Node → List Node
  | [] => []
  | item :: rest => normal item :: normalItems rest

/-- The items of a map in normal form. -/
def normalPairs : List Node → List Node
  | key :: value :: rest => normal key :: normal value :: normalPairs rest
  | _ => []

end

/-- The node is canonical and each scalar in it, the strings apart, is written as one token. The
empty node is ruled out, since its text is empty. -/
structure IsReadable (node : Node) : Prop where
  isCanonical : node.IsCanonical
  isToken : ∀ inner ∈ node.subnodes, ∀ text ∈ inner.atomText?, IsToken text.toList

instance (node : Node) : Decidable node.IsReadable :=
  decidable_of_iff
    (node.IsCanonical ∧ ∀ inner ∈ node.subnodes, ∀ text ∈ inner.atomText?, IsToken text.toList)
    ⟨fun h ↦ ⟨h.1, h.2⟩, fun h ↦ ⟨h.isCanonical, h.isToken⟩⟩

theorem IsReadable.child {child node : Node} (h : node.IsReadable)
    (hchild : child ∈ node.children) :
    child.IsReadable where
  isCanonical := h.isCanonical.child hchild
  isToken inner hinner := h.isToken inner (mem_subnodes_of_child hchild hinner)

theorem normalItems_eq_map (items : List Node) : normalItems items = items.map normal := by
  induction items with
  | nil => rfl
  | cons item rest ih => rw [normalItems, ih, List.map_cons]

theorem normal_seq {kind : SeqKind} (hkind : kind ≠ .map) (items : List Node) :
    (seq kind items).normal = seq kind (items.map normal) := by
  rw [normal, normalItems_eq_map]
  exact hkind

/-! ### Scalars -/

theorem print_of_atomText? {node : Node} {text : String} (h : node.atomText? = some text) :
    node.print = .ok text := by
  cases node with
  | empty => exact congrArg Except.ok (Option.some.inj h)
  | nil => exact congrArg Except.ok (Option.some.inj h)
  | bool value => exact congrArg Except.ok (Option.some.inj h)
  | text kind content =>
    cases kind with
    | string => cases h
    | _ => exact congrArg Except.ok (Option.some.inj h)
  | seq kind items => cases h
  | group items => cases h

/-- The normal form of an atom is the token of its text. -/
theorem normal_of_atomText? {node : Node} {content : String} (h : node.atomText? = some content) :
    node.normal = text .token content := by
  cases node with
  | seq kind items => cases h
  | _ => simp [normal, h]

/-- What is no atom is a string, a sequence or a group. -/
theorem cases_of_atomText?_eq_none {node : Node} (h : node.atomText? = none) :
    (∃ content, node = text .string content) ∨ (∃ kind items, node = seq kind items) ∨
      node.isGroup = true := by
  cases node with
  | empty => cases h
  | nil => cases h
  | bool value => cases h
  | text kind content =>
    cases kind with
    | string => exact .inl ⟨content, rfl⟩
    | _ => cases h
  | seq kind items => exact .inr (.inl ⟨kind, items, rfl⟩)
  | group items => exact .inr (.inr rfl)

/-! ### Sequences -/

theorem isGap_blank : IsGap " ".toList := by
  simp [IsGap]

theorem isGap_comma : IsGap ", ".toList := by
  simp [IsGap]

theorem isGap_lineFeed : IsGap "\n".toList := by
  simp [IsGap]

/-- The texts joined by `separator` are read one after the other. -/
theorem reads_intercalate_cons {separator first : String} {texts : List String}
    {before after : List Node} (hgap : IsGap separator.toList) (hfirst : Reads first.toList before)
    (htexts : Reads (separator.intercalate texts).toList after) :
    Reads (separator.intercalate (first :: texts)).toList (before ++ after) := by
  cases texts with
  | nil =>
    -- the text of no texts is empty, and what an empty text is read as is known
    have hafter : after = [] := by
      have hread := htexts.readForms_eq
      rwa [String.intercalate_nil, String.toList_empty, reads_nil.readForms_eq, eq_comm] at hread
    rw [String.intercalate_singleton, hafter, List.append_nil]
    exact hfirst
  | cons second texts =>
    rw [String.intercalate_cons_cons, String.toList_append, String.toList_append]
    exact hfirst.append hgap htexts

/-- Items with gaps between them are read one after the other. -/
theorem reads_printItems {separator : String} (hgap : IsGap separator.toList) {items : List Node}
    (hitems : ∀ item ∈ items, ∀ text, item.print = .ok text → Reads text.toList [item.normal])
    {texts : List String} (hprint : printItems items = .ok texts) :
    Reads (separator.intercalate texts).toList (items.map normal) := by
  induction items generalizing texts with
  | nil =>
    obtain rfl : [] = texts := Except.ok.inj hprint
    rw [String.intercalate_nil]
    exact reads_nil
  | cons item rest ih =>
    rw [printItems] at hprint
    obtain ⟨first, hfirst, hprint⟩ := exists_of_bind_eq_ok hprint
    obtain ⟨others, hothers, hprint⟩ := exists_of_bind_eq_ok hprint
    obtain rfl : first :: others = texts := Except.ok.inj hprint
    have hrest := ih (fun item hitem ↦ hitems item (List.mem_cons_of_mem _ hitem)) hothers
    exact reads_intercalate_cons hgap (hitems item List.mem_cons_self first hfirst) hrest

/-- Pairs are read as their items, the last of an odd number aside. -/
theorem reads_printPairs : ∀ {items : List Node},
    (∀ item ∈ items, ∀ text, item.print = .ok text → Reads text.toList [item.normal]) →
    ∀ {texts : List String}, printPairs items = .ok texts →
      Reads (", ".intercalate texts).toList (normalPairs items)
  | [], _, texts, hprint => by
    obtain rfl : [] = texts := Except.ok.inj hprint
    exact reads_nil
  | [_], _, texts, hprint => by
    obtain rfl : [] = texts := Except.ok.inj hprint
    exact reads_nil
  | key :: value :: rest, hitems, texts, hprint => by
    rw [printPairs] at hprint
    obtain ⟨keyText, hkey, hprint⟩ := exists_of_bind_eq_ok hprint
    obtain ⟨valueText, hvalue, hprint⟩ := exists_of_bind_eq_ok hprint
    obtain ⟨others, hothers, hprint⟩ := exists_of_bind_eq_ok hprint
    obtain rfl : (keyText ++ " " ++ valueText) :: others = texts := Except.ok.inj hprint
    have hpair : Reads (keyText ++ " " ++ valueText).toList [key.normal, value.normal] := by
      rw [String.toList_append, String.toList_append]
      exact (hitems key (by simp) keyText hkey).append isGap_blank
        (hitems value (by simp) valueText hvalue)
    have hrest := reads_printPairs
      (fun item (hitem : item ∈ rest) ↦ hitems item (by simp [hitem])) hothers
    exact reads_intercalate_cons isGap_comma hpair hrest

/-! ### Nodes -/

/-- Brackets around a text make one sequence of what it is read as. -/
theorem reads_enclosed {kind : SeqKind} {opening closing : Char}
    (hbrackets : Encloses kind opening closing) {text : String} {nodes : List Node}
    (h : Reads text.toList nodes) :
    Reads (String.ofList [opening] ++ text ++ String.ofList [closing]).toList [seq kind nodes] := by
  rw [String.toList_append, String.toList_append, String.toList_ofList, String.toList_ofList]
  exact h.enclose hbrackets

/-- Each kind of sequence is printed in the brackets that it is read by. -/
theorem reads_print_seq {kind : SeqKind} {items : List Node} (hkind : kind.isProvisional = false)
    (hitems : ∀ item ∈ items, ∀ text, item.print = .ok text → Reads text.toList [item.normal])
    {text : String} (hprint : (seq kind items).print = .ok text) :
    Reads text.toList [(seq kind items).normal] := by
  cases kind with
  | list =>
    obtain ⟨texts, htexts, rfl⟩ := exists_of_map_eq_ok hprint
    have hreads := reads_printItems isGap_blank hitems htexts
    rw [normal_seq (by decide)]
    exact reads_enclosed encloses_list hreads
  | vector =>
    obtain ⟨texts, htexts, rfl⟩ := exists_of_map_eq_ok hprint
    have hreads := reads_printItems isGap_blank hitems htexts
    rw [normal_seq (by decide)]
    exact reads_enclosed encloses_vector hreads
  | map =>
    obtain ⟨texts, htexts, rfl⟩ := exists_of_map_eq_ok hprint
    exact reads_enclosed encloses_map (reads_printPairs hitems htexts)
  | pairs => cases hkind
  | forms => cases hkind

/-- The text of a readable node is read as its normal form. -/
theorem reads_print {node : Node} (h : node.IsReadable) {text : String}
    (hprint : node.print = .ok text) : Reads text.toList [node.normal] := by
  induction node using inductionOn generalizing text with
  | step node ih =>
    cases hatom : node.atomText? with
    | some content =>
      have htoken := h.isToken node node.self_mem_subnodes content hatom
      obtain rfl : content = text := Except.ok.inj ((print_of_atomText? hatom).symm.trans hprint)
      rw [normal_of_atomText? hatom]
      have hreads := reads_token htoken
      rwa [String.ofList_toList] at hreads
    | none =>
      rcases cases_of_atomText?_eq_none hatom with ⟨content, rfl⟩ | ⟨kind, items, rfl⟩ | hgroup
      · obtain rfl : TextKind.string.print content = text := Except.ok.inj hprint
        rw [toList_print_string]
        have hreads := reads_string content.toList
        rwa [String.ofList_toList] at hreads
      · have hitems : ∀ item ∈ items, ∀ text, item.print = .ok text →
            Reads text.toList [item.normal] :=
          fun item hitem text ↦ ih item hitem (h.child hitem)
        exact reads_print_seq h.isCanonical.isProvisional hitems hprint
      · rw [h.isCanonical.isGroup] at hgroup
        cases hgroup

/-! ### The text of a normal form -/

theorem printItems_map_normal {items : List Node}
    (h : ∀ item ∈ items, item.normal.print = item.print) :
    printItems (items.map normal) = printItems items := by
  induction items with
  | nil => rfl
  | cons item rest ih =>
    rw [List.map_cons, printItems, h item List.mem_cons_self,
      ih fun item hitem ↦ h item (List.mem_cons_of_mem _ hitem), printItems]

theorem printPairs_normalPairs : ∀ {items : List Node},
    (∀ item ∈ items, item.normal.print = item.print) →
    printPairs (normalPairs items) = printPairs items
  | [], _ => rfl
  | [_], _ => rfl
  | key :: value :: rest, h => by
    rw [normalPairs, printPairs, h key (by simp), h value (by simp),
      printPairs_normalPairs fun item (hitem : item ∈ rest) ↦ h item (by simp [hitem]), printPairs]

/-- Taking the normal form of a canonical node does not change its text. -/
theorem print_normal {node : Node} (h : node.IsCanonical) : node.normal.print = node.print := by
  induction node using inductionOn with
  | step node ih =>
    cases hatom : node.atomText? with
    | some content =>
      rw [normal_of_atomText? hatom, print_of_atomText? hatom]
      rfl
    | none =>
      rcases cases_of_atomText?_eq_none hatom with ⟨content, rfl⟩ | ⟨kind, items, rfl⟩ | hgroup
      · rfl
      · have hitems : ∀ item ∈ items, item.normal.print = item.print :=
          fun item hitem ↦ ih item hitem (h.child hitem)
        cases kind with
        | list => rw [normal_seq (by decide), print, printItems_map_normal hitems, print]
        | vector => rw [normal_seq (by decide), print, printItems_map_normal hitems, print]
        | map => rw [normal, print, printPairs_normalPairs hitems, print]
        | pairs => cases h.isProvisional
        | forms => cases h.isProvisional
      · rw [h.isGroup] at hgroup
        cases hgroup

end Node

namespace Program

/-- A program of readable forms has a text, and the text is read back as the forms in normal
form. -/
theorem exists_print_and_readForms {program : Program}
    (h : ∀ form ∈ program.forms, form.IsReadable) :
    ∃ text, program.print = .ok text ∧ readForms text.toList = program.forms.map Node.normal := by
  obtain ⟨texts, htexts⟩ := Node.exists_printItems_eq_ok fun form hform ↦
    Node.exists_print_eq_ok (h form hform).isCanonical
  have hreads : Reads ("\n".intercalate texts).toList (program.forms.map Node.normal) :=
    Node.reads_printItems Node.isGap_lineFeed
      (fun form hform _ hprint ↦ Node.reads_print (h form hform) hprint) htexts
  exact ⟨"\n".intercalate texts, by rw [print, htexts]; rfl, hreads.readForms_eq⟩

/-- **Printed programs can be read back.** The text of a program of readable forms is read back as
the forms in normal form, and two such programs have the same text exactly if they have the same
number of forms and corresponding forms have the same normal form. -/
theorem print_eq_iff_normal_forms_eq {first second : Program}
    (hfirst : ∀ form ∈ first.forms, form.IsReadable)
    (hsecond : ∀ form ∈ second.forms, form.IsReadable) :
    (∃ text, first.print = .ok text ∧ readForms text.toList = first.forms.map Node.normal) ∧
      (first.print = second.print ↔
        first.forms.length = second.forms.length ∧
          first.forms.map Node.normal = second.forms.map Node.normal) := by
  refine ⟨exists_print_and_readForms hfirst, fun hprint ↦ ?_, fun hsame ↦ ?_⟩
  · obtain ⟨text, htext, hread⟩ := exists_print_and_readForms hfirst
    obtain ⟨other, hother, hreadOther⟩ := exists_print_and_readForms hsecond
    obtain rfl : text = other := by
      rw [htext, hother] at hprint
      exact Except.ok.inj hprint
    have hforms := hread.symm.trans hreadOther
    refine ⟨?_, hforms⟩
    have hlength := congrArg List.length hforms
    rwa [List.length_map, List.length_map] at hlength
  · have hprint : ∀ {program : Program}, (∀ form ∈ program.forms, form.IsReadable) →
        Node.printItems (program.forms.map Node.normal) = Node.printItems program.forms :=
      fun h ↦ Node.printItems_map_normal fun form hform ↦
        Node.print_normal (h form hform).isCanonical
    rw [print, print, ← hprint hfirst, hsame.2, hprint hsecond]

/-- Two programs that differ in the kinds of their scalars and in an item without a partner, with a
string that holds quotes, brackets, a comma, a backslash and a line feed. -/
theorem print_eq_iff_normal_forms_eq_kinds :
    ∃ first second : Program, first ≠ second ∧
      (∀ form ∈ first.forms, form.IsReadable) ∧ (∀ form ∈ second.forms, form.IsReadable) ∧
        first.print = second.print ∧
          first.forms.map Node.normal = second.forms.map Node.normal := by
  let hard : Node := .text .string "\\\x22) ,\n\x7d"
  let first : Program := ⟨[.list [.sym "f", .text .qualified "a::b", hard],
    .seq .map [.text .keyword ":k", .vector [.nil, .bool true], hard]]⟩
  let second : Program := ⟨[.list [.text .token "f", .sym "a.b", hard],
    .seq .map [.text .token ":k", .vector [.sym "nil", .text .token "true"]]]⟩
  have hfirst : ∀ form ∈ first.forms, form.IsReadable := by decide
  have hsecond : ∀ form ∈ second.forms, form.IsReadable := by decide
  have hprint : first.print = second.print := by rfl
  exact ⟨first, second, by decide, hfirst, hsecond, hprint,
    ((print_eq_iff_normal_forms_eq hfirst hsecond).2.1 hprint).2⟩

end Program

end ScriptForms

import Mathlib.Data.List.Basic
import ScriptForms.Program
import ScriptForms.Proofs.Except
import ScriptForms.Proofs.Node.Canonical

/-!
# One form a line

The text of a program has a line for each top-level form. For this no form may have a line feed in
its text. The printer writes none of its own inside a form, a string is written with its line feeds
escaped (`isLine_string`), and replacing double colons brings none in (`mem_of_mem_dotted`); so the
only line feeds that could get there are those in other scalars. If these have none, the lines of
the text are the texts of the forms (`lines_are_forms`), however many line feeds its strings have.
-/

namespace ScriptForms

/-- The text has no line feed in it. -/
def IsLine (text : String) : Prop :=
  '\n' ∉ text.toList

instance (text : String) : Decidable (IsLine text) :=
  inferInstanceAs (Decidable ('\n' ∉ text.toList))

/-- The parts of a text between its line feeds. -/
def linesOf (text : String) : List String :=
  (text.toList.splitOn '\n').map String.ofList

theorem IsLine.append {first second : String} (hfirst : IsLine first) (hsecond : IsLine second) :
    IsLine (first ++ second) := by
  rw [IsLine, String.toList_append, List.mem_append, not_or]
  exact ⟨hfirst, hsecond⟩

theorem isLine_intercalate {separator : String} (hseparator : IsLine separator)
    {texts : List String}
    (h : ∀ text ∈ texts, IsLine text) : IsLine (separator.intercalate texts) := by
  induction texts with
  | nil => exact List.not_mem_nil
  | cons text rest ih =>
    obtain ⟨htext, hrest⟩ := List.forall_mem_cons.1 h
    cases rest with
    | nil =>
      rw [String.intercalate_singleton]
      exact htext
    | cons next rest =>
      rw [String.intercalate_cons_cons]
      exact (htext.append hseparator).append (ih hrest)

/-- Lines put together with line feeds between them are the lines of the whole. -/
theorem linesOf_intercalate {texts : List String} (hne : texts ≠ [])
    (h : ∀ text ∈ texts, IsLine text) :
    linesOf ("\n".intercalate texts) = texts := by
  have hseparator : "\n".toList = ['\n'] := String.toList_ofList
  have hlines : ∀ line ∈ texts.map String.toList, '\n' ∉ line := List.forall_mem_map.2 h
  have hparts := List.splitOn_intercalate '\n' hlines (mt List.map_eq_nil_iff.1 hne)
  rw [linesOf, String.toList_intercalate, hseparator, hparts, List.map_map]
  exact List.map_id'' (fun _ ↦ String.ofList_toList) texts

/-! ### Scalars -/

/-- A line feed in a string is printed as an escape. -/
theorem notMem_escapeChar (c : Char) : '\n' ∉ escapeChar c := by
  unfold escapeChar
  split
  · decide
  · decide
  · decide
  · next hfeed =>
    rw [List.mem_singleton]
    exact fun h ↦ hfeed h.symm

/-- A string is written on one line, whatever its text is. -/
theorem isLine_string (text : String) : IsLine (TextKind.string.print text) := by
  have hinside : IsLine (escapeString text) := by
    rw [IsLine, escapeString, String.toList_ofList, List.mem_flatMap]
    rintro ⟨c, -, hc⟩
    exact notMem_escapeChar c hc
  have hquote : IsLine "\x22" := by decide
  exact (hquote.append hinside).append hquote

/-- The characters of a name with points are those of the name, and points. -/
theorem mem_of_mem_dotted {c : Char} {text : List Char} (h : c ∈ dotted text) :
    c = '.' ∨ c ∈ text := by
  fun_induction dotted text with
  | case1 rest ih =>
    rcases List.mem_cons.1 h with hpoint | hrest
    · exact .inl hpoint
    · exact (ih hrest).imp_right fun hmem ↦ List.mem_cons_of_mem _ (List.mem_cons_of_mem _ hmem)
  | case2 first rest _ ih =>
    rcases List.mem_cons.1 h with rfl | hrest
    · exact .inr List.mem_cons_self
    · exact (ih hrest).imp_right (List.mem_cons_of_mem _)
  | case3 => cases h

/-- Rewriting a namespace adds points only. -/
theorem isLine_qualified {text : String} (h : IsLine text) :
    IsLine (TextKind.qualified.print text) := by
  show '\n' ∉ (String.ofList (dotted text.toList)).toList
  rw [String.toList_ofList]
  intro hmem
  rcases mem_of_mem_dotted hmem with hpoint | htext
  · cases hpoint
  · exact h htext

/-- Whatever its kind, a text is printed on one line if it is one; a string in any case. -/
theorem isLine_textKind {kind : TextKind} {text : String} (h : kind ≠ .string → IsLine text) :
    IsLine (kind.print text) := by
  cases kind with
  | string => exact isLine_string text
  | character =>
    have hbackslash : IsLine "\\" := by decide
    exact hbackslash.append (h (by decide))
  | qualified => exact isLine_qualified (h (by decide))
  | _ => exact h (by decide)

/-! ### Nodes -/

namespace Node

/-- The text of a scalar that is no string. -/
def plainText? : Node → Option String
  | text .string _ => none
  | text _ content => some content
  | _ => none

/-- No scalar in the node has a line feed in it, strings apart. -/
def IsOneLine (node : Node) : Prop :=
  ∀ inner ∈ node.subnodes, ∀ content ∈ inner.plainText?, IsLine content

instance (node : Node) : Decidable node.IsOneLine :=
  inferInstanceAs (Decidable (∀ inner ∈ node.subnodes, ∀ content ∈ inner.plainText?,
    IsLine content))

theorem IsOneLine.child {child node : Node} (h : node.IsOneLine) (hchild : child ∈ node.children) :
    child.IsOneLine :=
  fun inner hinner ↦ h inner (mem_subnodes_of_child hchild hinner)

theorem plainText?_text {kind : TextKind} (hkind : kind ≠ .string) (content : String) :
    (text kind content).plainText? = some content := by
  cases kind with
  | string => exact absurd rfl hkind
  | _ => rfl

theorem IsOneLine.text {kind : TextKind} {content : String} (h : (Node.text kind content).IsOneLine)
    (hkind : kind ≠ .string) : IsLine content :=
  h _ (self_mem_subnodes _) content (plainText?_text hkind content)

/-- The texts of several nodes are those of the nodes one by one. -/
theorem map_print_eq {items : List Node} {texts : List String} (h : printItems items = .ok texts) :
    items.map print = texts.map .ok := by
  induction items generalizing texts with
  | nil =>
    obtain rfl : [] = texts := Except.ok.inj h
    rfl
  | cons item rest ih =>
    rw [printItems] at h
    obtain ⟨first, hfirst, h⟩ := exists_of_bind_eq_ok h
    obtain ⟨others, hothers, h⟩ := exists_of_bind_eq_ok h
    obtain rfl : first :: others = texts := Except.ok.inj h
    rw [List.map_cons, List.map_cons, hfirst, ih hothers]

theorem isLine_printItems {items : List Node}
    (hitems : ∀ item ∈ items, ∀ text, item.print = .ok text → IsLine text) {texts : List String}
    (h : printItems items = .ok texts) : ∀ text ∈ texts, IsLine text := by
  intro text htext
  have hmem : .ok text ∈ items.map print := map_print_eq h ▸ List.mem_map_of_mem htext
  obtain ⟨item, hitem, hprint⟩ := List.mem_map.1 hmem
  exact hitems item hitem text hprint

theorem isLine_printPairs : ∀ {items : List Node},
    (∀ item ∈ items, ∀ text, item.print = .ok text → IsLine text) →
    ∀ {texts : List String}, printPairs items = .ok texts → ∀ text ∈ texts, IsLine text
  | [], _, texts, h => by
    obtain rfl : [] = texts := Except.ok.inj h
    exact List.forall_mem_nil _
  | [_], _, texts, h => by
    obtain rfl : [] = texts := Except.ok.inj h
    exact List.forall_mem_nil _
  | key :: value :: rest, hitems, texts, h => by
    rw [printPairs] at h
    obtain ⟨keyText, hkey, h⟩ := exists_of_bind_eq_ok h
    obtain ⟨valueText, hvalue, h⟩ := exists_of_bind_eq_ok h
    obtain ⟨others, hothers, h⟩ := exists_of_bind_eq_ok h
    obtain rfl : (keyText ++ " " ++ valueText) :: others = texts := Except.ok.inj h
    obtain ⟨hkeyLine, hitems⟩ := List.forall_mem_cons.1 hitems
    obtain ⟨hvalueLine, hrest⟩ := List.forall_mem_cons.1 hitems
    have hblank : IsLine " " := by decide
    have hpair : IsLine (keyText ++ " " ++ valueText) :=
      ((hkeyLine keyText hkey).append hblank).append (hvalueLine valueText hvalue)
    exact List.forall_mem_cons.2 ⟨hpair, isLine_printPairs hrest hothers⟩

/-- Texts in brackets are on one line if they and what is between them are. -/
theorem isLine_enclosed {opening separator closing : String} {texts : List String}
    (hbrackets : IsLine opening ∧ IsLine separator ∧ IsLine closing)
    (h : ∀ text ∈ texts, IsLine text) :
    IsLine (opening ++ separator.intercalate texts ++ closing) :=
  (hbrackets.1.append (isLine_intercalate hbrackets.2.1 h)).append hbrackets.2.2

/-- The text of a node is on one line if its scalars are, strings apart. -/
theorem isLine_print {node : Node} (h : node.IsOneLine) {text : String}
    (hprint : node.print = .ok text) :
    IsLine text := by
  induction node using inductionOn generalizing text with
  | step node ih =>
    cases node with
    | empty =>
      obtain rfl : "" = text := Except.ok.inj hprint
      decide
    | nil =>
      obtain rfl : "nil" = text := Except.ok.inj hprint
      decide
    | bool value =>
      obtain rfl : (if value then "true" else "false") = text := Except.ok.inj hprint
      cases value <;> decide
    | text kind content =>
      obtain rfl : kind.print content = text := Except.ok.inj hprint
      exact isLine_textKind h.text
    | group items => cases hprint
    | seq kind items =>
      have hitems : ∀ item ∈ items, ∀ text, item.print = .ok text → IsLine text :=
        fun item hitem text ↦ ih item hitem (h.child hitem)
      cases kind with
      | list =>
        obtain ⟨texts, htexts, rfl⟩ := exists_of_map_eq_ok hprint
        exact isLine_enclosed (by decide) (isLine_printItems hitems htexts)
      | vector =>
        obtain ⟨texts, htexts, rfl⟩ := exists_of_map_eq_ok hprint
        exact isLine_enclosed (by decide) (isLine_printItems hitems htexts)
      | map =>
        obtain ⟨texts, htexts, rfl⟩ := exists_of_map_eq_ok hprint
        exact isLine_enclosed (by decide) (isLine_printPairs hitems htexts)
      | pairs => cases hprint
      | forms => cases hprint

end Node

namespace Program

/-- **One form a line.** A program of canonical forms whose scalars have no line feeds, strings
apart, has a text, and its lines are the texts of the forms in order. -/
theorem lines_are_forms {program : Program} (hne : program.forms ≠ [])
    (hcanonical : ∀ form ∈ program.forms, form.IsCanonical)
    (hlines : ∀ form ∈ program.forms, form.IsOneLine) :
    ∃ text, program.print = .ok text ∧ program.forms.map Node.print = (linesOf text).map .ok := by
  obtain ⟨texts, htexts⟩ := Node.exists_printItems_eq_ok fun form hform ↦
    Node.exists_print_eq_ok (hcanonical form hform)
  have hprint := Node.map_print_eq htexts
  have htextsNe : texts ≠ [] := by
    rintro rfl
    exact hne (List.map_eq_nil_iff.1 hprint)
  have hlinesOf : linesOf ("\n".intercalate texts) = texts :=
    linesOf_intercalate htextsNe <|
      Node.isLine_printItems (fun form hform _ ↦ Node.isLine_print (hlines form hform)) htexts
  refine ⟨"\n".intercalate texts, ?_, ?_⟩
  · rw [print, htexts]
    rfl
  · rw [hlinesOf, hprint]

/-- A string of two lines, the empty form and a name in a map with an item without a partner: three
lines. -/
theorem lines_are_forms_string_of_two_lines :
    let program : Program := ⟨[.list [.sym "say", .text .string "a\n\x22b"], .empty,
      .seq .map [.text .keyword ":k", .text .qualified "a::b", .text .string "\n"]]⟩
    (program.forms ≠ [] ∧ (∀ form ∈ program.forms, form.IsCanonical) ∧
        ∀ form ∈ program.forms, form.IsOneLine) ∧
      ∃ text, program.print = .ok text ∧
        linesOf text = ["(say \x22a\\n\\\x22b\x22)", "", "\x7b:k a.b\x7d"] := by
  intro program
  have hne : program.forms ≠ [] := List.cons_ne_nil _ _
  have hcanonical : ∀ form ∈ program.forms, form.IsCanonical := by decide
  have hlines : ∀ form ∈ program.forms, form.IsOneLine := by decide
  obtain ⟨text, hprint, hforms⟩ := lines_are_forms hne hcanonical hlines
  have htexts : program.forms.map Node.print =
      ["(say \x22a\\n\\\x22b\x22)", "", "\x7b:k a.b\x7d"].map .ok := rfl
  have hinjective : Function.Injective (Except.ok : String → Except NodeError String) :=
    fun _ _ ↦ Except.ok.inj
  exact ⟨⟨hne, hcanonical, hlines⟩, text, hprint, hinjective.list_map (hforms.symm.trans htexts)⟩

end Program

end ScriptForms

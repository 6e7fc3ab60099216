import ScriptForms.Node.Printer

/-!
# String literals

A string is written between double quotes, with some of its characters escaped. `unescape` reads the
inside of a literal back (`unescape_escaped`), so different strings have different literals
(`escapeString_injective`). In the inside of a literal a double quote or a line feed never stands
for itself (`escapeChar_shape`).
-/

namespace ScriptForms

/-- Reads the inside of a string literal: behind a backslash, `n` stands for a line feed and any
other character for itself. -/
def unescape : List Char → List Char
  | '\\' :: 'n' :: rest => '\n' :: unescape rest
  | '\\' :: c :: rest => c :: unescape rest
  | c :: rest => c :: unescape rest
  | [] => []

/-- The inside of the literal of a text. -/
def escaped (text : List Char) : List Char :=
  text.flatMap escapeChar

theorem escaped_cons (c : Char) (text : List Char) :
    escaped (c :: text) = escapeChar c ++ escaped text :=
  List.flatMap_cons

/-- An escaped character is a backslash with a character behind it that is no line feed, or the
character itself, which is then neither a backslash nor a double quote. -/
theorem escapeChar_shape (c : Char) :
    (∃ d, escapeChar c = ['\\', d] ∧ d ≠ '\n') ∨ (escapeChar c = [c] ∧ c ≠ '\\' ∧ c ≠ '\x22') := by
  unfold escapeChar
  split
  · exact .inl ⟨'\\', rfl, by decide⟩
  · exact .inl ⟨'\x22', rfl, by decide⟩
  · exact .inl ⟨'n', rfl, by decide⟩
  · next hbackslash hquote _ => exact .inr ⟨rfl, hbackslash, hquote⟩

theorem unescape_cons_of_ne {c : Char} (h : c ≠ '\\') (rest : List Char) :
    unescape (c :: rest) = c :: unescape rest := by
  rw [unescape]
  · exact fun _ hc ↦ absurd hc h
  · exact fun _ _ hc ↦ absurd hc h

/-- Each escape is undone on its own, whatever follows it. -/
theorem unescape_escapeChar_append (c : Char) (rest : List Char) :
    unescape (escapeChar c ++ rest) = c :: unescape rest := by
  unfold escapeChar
  split
  · rfl
  · rfl
  · rfl
  · next hbackslash _ _ => exact unescape_cons_of_ne hbackslash rest

/-- Reading the inside of a literal gives the text back. -/
theorem unescape_escaped (text : List Char) : unescape (escaped text) = text := by
  induction text with
  | nil => rfl
  | cons c text ih => rw [escaped_cons, unescape_escapeChar_append, ih]

/-- Different texts are escaped differently, since escapes can be undone. -/
theorem escapeString_injective : Function.Injective escapeString := by
  intro first second h
  have hescaped : escaped first.toList = escaped second.toList := String.ofList_injective h
  have htext : first.toList = second.toList := by
    rw [← unescape_escaped first.toList, hescaped, unescape_escaped]
  exact String.toList_inj.1 htext

/-- The text of a string node. -/
theorem toList_print_string (text : String) :
    (TextKind.string.print text).toList = '\x22' :: (escaped text.toList ++ ['\x22']) := by
  have hinside : (escapeString text).toList = escaped text.toList := String.toList_ofList
  have hquote : "\x22".toList = ['\x22'] := String.toList_ofList
  rw [TextKind.print, String.toList_append, String.toList_append, hinside, hquote]
  rfl

end ScriptForms

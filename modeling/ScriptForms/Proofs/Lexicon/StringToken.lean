import ScriptForms.Proofs.Lexicon.Table
import ScriptForms.Proofs.Node.StringLiteral
import ScriptForms.Proofs.Regex.Takes

/-!
# Printed strings are tokens

The printer and the lexicon agree on string literals. Each escaped character is exactly one round of
the loop in the token's expression, and the loop can neither go on at the closing quote nor stop
before it. So the token takes the whole literal and nothing behind it, whatever follows
(`takes_stringLiteral`).
-/

namespace ScriptForms

namespace Pattern

open Regex

/-- The match of a pattern whose expression takes `text` before `rest`. -/
theorem match?_of_takes {pattern : Pattern} {text rest : List Char}
    (h : Takes pattern.regex text rest) :
    pattern.match? (text ++ rest) = some ⟨0, text.length,
      List.replicate pattern.groupCount none⟩ := by
  rw [match?, matchAt, h _ some (beginning (text ++ rest)) rfl, Option.map_some]
  simp [matchOf, beginning, Place.advance, List.map_const']

/-- What an expression takes without a rest is a full match. -/
theorem isSome_fullMatch?_of_takes {pattern : Pattern} {text : List Char}
    (h : Takes pattern.regex text []) : (pattern.fullMatch? text).isSome = true := by
  have hbeginning : (beginning text).rest = text ++ [] := (List.append_nil text).symm
  rw [fullMatch?, fullMatchAt, h _ _ (beginning text) hbeginning, Place.rest_advance hbeginning]
  rfl

end Pattern

namespace Lexicon

open Regex

/-! ### Rounds -/

/-- A backslash is taken together with the character behind it, unless this is a line feed. -/
theorem takes_stringUnit_escape {c : Char} (h : c ≠ '\n') (rest : List Char) :
    Takes stringUnit ['\\', c] rest := by
  have hany : Takes anyChar [c] rest :=
    takes_chars (by simp [CharSet.contains, contains_span_self, h]) rest
  have hother : Fails (.chars ⟨true, [.span '\\' '\\', .span '\x22' '\x22']⟩)
      (['\\', c] ++ rest) :=
    fails_chars (by simp [CharSet.contains, contains_span_self]) (c :: rest)
  exact ((takes_char '\\' ([c] ++ rest)).seq hany).alt_left hother

/-- Any other character is taken alone. -/
theorem takes_stringUnit_char {c : Char} (hbackslash : c ≠ '\\') (hquote : c ≠ '\x22')
    (rest : List Char) : Takes stringUnit [c] rest := by
  have hescape : Fails (.seq (.char '\\') .anyChar) ([c] ++ rest) :=
    (fails_char hbackslash rest).seq .anyChar
  have hother : Takes (.chars ⟨true, [.span '\\' '\\', .span '\x22' '\x22']⟩) [c] rest :=
    takes_chars (by simp [CharSet.contains, contains_span_self, hbackslash, hquote]) rest
  exact Takes.alt_right hescape hother

/-- An escaped character is one round of a string literal. -/
theorem isRound_escapeChar (c : Char) : IsRound stringUnit (.char '\x22') (escapeChar c) := by
  rcases escapeChar_shape c with ⟨d, hshape, hd⟩ | ⟨hshape, hbackslash, hquote⟩
  · rw [hshape]
    exact ⟨by simp, takes_stringUnit_escape hd, fun rest ↦ fails_char (by decide) (d :: rest)⟩
  · rw [hshape]
    exact ⟨by simp, takes_stringUnit_char hbackslash hquote, fails_char hquote⟩

/-- There is no round at a double quote. -/
theorem fails_stringUnit_quote (rest : List Char) : Fails stringUnit ('\x22' :: rest) :=
  Fails.alt ((fails_char (by decide) rest).seq .anyChar)
    (fails_chars (by simp [CharSet.contains, contains_span_self]) rest)

/-- A printed string is taken as a whole. -/
theorem takes_stringLiteral (text rest : List Char) :
    Takes stringLiteral ('\x22' :: (escaped text ++ ['\x22'])) rest := by
  have hunits : ∀ unit ∈ text.map escapeChar, IsRound stringUnit (.char '\x22') unit := by
    intro unit hunit
    obtain ⟨c, -, rfl⟩ := List.mem_map.1 hunit
    exact isRound_escapeChar c
  have hloop := Takes.loop_seq hunits (fails_stringUnit_quote rest) (takes_char '\x22' rest)
  exact (takes_char '\x22' _).seq hloop

/-! ### The token -/

theorem mem_tokenExpressions_dstr : ("dstr", stringLiteral, 0) ∈ tokenExpressions :=
  List.mem_cons_self

/-- **Printed strings are string tokens.** Whatever follows the text of a string node, the token of
strings in double quotes matches that text and nothing more; the text alone is a token. Reading
between its two quotes gives the string back, so strings are told apart by their escaped forms. -/
theorem printed_string_is_token :
    (∀ (text : String) (rest : List Char), ∃ literal pattern inside,
      (Node.text .string text).print = .ok literal ∧
      lexicon.get "dstr" = .ok pattern ∧
      pattern.match? (literal.toList ++ rest) = some ⟨0, literal.length, []⟩ ∧
      isToken "dstr" literal.toList = .ok true ∧
      literal.toList = '\x22' :: (inside ++ ['\x22']) ∧ unescape inside = text.toList) ∧
    Function.Injective escapeString := by
  refine ⟨fun text rest ↦ ?_, escapeString_injective⟩
  obtain ⟨source, hget⟩ := exists_get?_of_mem_tokenExpressions mem_tokenExpressions_dstr
  have hpattern : lexicon.get "dstr" = .ok ⟨source, stringLiteral, 0⟩ := by
    rw [NamedPatterns.get, hget]
  have hliteral := toList_print_string text
  refine ⟨TextKind.string.print text, ⟨source, stringLiteral, 0⟩,
    escaped text.toList, rfl, hpattern,
    ?_, ?_, hliteral, unescape_escaped text.toList⟩
  · rw [← String.length_toList, hliteral]
    exact Pattern.match?_of_takes (takes_stringLiteral text.toList rest)
  · rw [isToken, hpattern, hliteral]
    exact congrArg Except.ok
      (Pattern.isSome_fullMatch?_of_takes (takes_stringLiteral text.toList []))

end Lexicon

end ScriptForms

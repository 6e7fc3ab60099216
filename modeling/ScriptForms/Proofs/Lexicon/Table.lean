import ScriptForms.Lexicon
import ScriptForms.Proofs.Pattern.Resolution
import ScriptForms.Proofs.Regex.Language

/-!
# The table of the lexicon

That the definitions of the lexicon can be made, and which expressions the tokens have, is found by
evaluation. This is done once, for everything that the statements about tokens need
(`isExpected_lexicon`): the expressions of the tokens in `tokenExpressions`, and that no source
begins with a letter.

The templates are evaluated as lists of characters (`map_spell_cons`), since taking a string literal
apart is by far the longest part of the computation.
-/

namespace ScriptForms

namespace Lexicon

open Template

/-! ### Expressions of tokens -/

/-- The inside of a string in double quotes, one round: a backslash with a character behind it that
is no line feed, or a character that is neither a backslash nor a double quote. -/
def stringUnit : Regex :=
  .alt (.seq (.char '\\') .anyChar) (.chars ⟨true, [.span '\\' '\\', .span '\x22' '\x22']⟩)

/-- A string in double quotes. -/
def stringLiteral : Regex :=
  .seq (.char '\x22') (.seq (.loop .greedy 0 none stringUnit) (.char '\x22'))

/-- The characters that are no single quotes. -/
def unquotedSet : CharSet :=
  ⟨true, [.span '\x27' '\x27']⟩

/-- The inside of a string in single quotes, one round: two quotes, or a character that is none. -/
def quoteUnit : Regex :=
  .alt (.seq (.char '\x27') (.char '\x27')) (.chars unquotedSet)

/-- A string in single quotes. -/
def quotedLiteral : Regex :=
  .seq (.char '\x27') (.seq (.loop .greedy 0 none quoteUnit) (.char '\x27'))

/-- The decimal digits. -/
def digitSet : CharSet :=
  ⟨false, [.digit false]⟩

/-- At least `min` digits. -/
def digits (min : Nat) : Regex :=
  .loop .greedy min none (.chars digitSet)

/-- A minus sign, or nothing. -/
def sign : Regex :=
  .loop .greedy 0 (some 1) (.char '-')

/-- A number without a point. -/
def wholeNumber : Regex :=
  .seq sign (digits 1)

/-- What follows the point of a number: digits, and an exponent or nothing. -/
def fraction : Regex :=
  .seq (digits 0) (.loop .greedy 0 (some 1) (.seq (.char 'e') wholeNumber))

/-- A number. -/
def numberLiteral : Regex :=
  .alt (.seq sign (.seq (digits 1) (.seq (.char '.') fraction))) wholeNumber

/-- The letters and digits of words. -/
def wordSet : CharSet :=
  ⟨false, [.span 'a' 'z', .span 'A' 'Z', .span '0' '9']⟩

/-- A part of a word between hyphens. -/
def wordPart : Regex :=
  .loop .greedy 1 none (.chars wordSet)

/-- A word. -/
def word : Regex :=
  .seq wordPart (.loop .greedy 0 none (.seq (.char '-') wordPart))

/-- The marks at the end of symbols. -/
def markSet : CharSet :=
  ⟨false, [.span '?' '?', .span '!' '!', .span '.' '.']⟩

/-- A symbol. -/
def symbol : Regex :=
  .seq word (.loop .greedy 0 (some 1) (.chars markSet))

/-- A namespace of several words. -/
def longNamespace : Regex :=
  .seq word (.loop .greedy 1 none (.seq (.char ':') (.seq (.char ':') word)))

/-- A symbol with its namespace. -/
def qualifiedSymbol : Regex :=
  .seq (.alt longNamespace word) (.seq (.char '/') symbol)

/-- A symbol that is called. -/
def calledSymbol : Regex :=
  .seq (.alt qualifiedSymbol symbol) (.char '(')

/-- The characters `text`, then `next`. -/
def literal (text : List Char) (next : Regex) : Regex :=
  text.foldr (fun c ↦ .seq (.char c)) next

/-- Spaces and an equals sign that end a line. -/
def equalsSign : Regex :=
  .seq (.loop .greedy 1 none (.char ' ')) (.seq (.char '=') .atEnd)

/-- The key of a definition. -/
def definitionKey : Regex :=
  .seq .atStart (.seq (.capture 1 word) equalsSign)

/-- The parameters of a function, in parentheses. -/
def parameters : Regex :=
  .seq (.char '(') (.seq (.capture 2 (.loop .greedy 0 none .anyChar)) (.char ')'))

/-- The key of a function definition. -/
def functionKey : Regex :=
  .seq .atStart <| literal ['d', 'e', 'f', 'n', ' '] <|
    .seq (.capture 1 symbol) (.seq (.loop .greedy 0 (some 1) parameters) .atEnd)

/-- The characters that are no parentheses. -/
def plainSet : CharSet :=
  ⟨true, [.span ')' ')', .span '(' '(']⟩

/-- Any number of characters that are no parentheses. -/
def plainText : Regex :=
  .loop .greedy 0 none (.chars plainSet)

/-- Text in which parentheses are nested at most `depth` deep, then `next`. -/
def nestedText : Nat → Regex → Regex
  | 0, next => .seq plainText next
  | depth + 1, next =>
    .seq plainText <|
      .seq (.loop .greedy 0 none (.seq (.char '(') (nestedText depth (.seq (.char ')') plainText))))
        next

/-- Balanced parentheses, at most six deep. -/
def parentheses : Regex :=
  .seq (.char '(') (nestedText 5 (.char ')'))

/-- The expressions of tokens and the numbers of their groups. -/
def tokenExpressions : List (String × Regex × Nat) :=
  [("dstr", stringLiteral, 0), ("xnum", numberLiteral, 0), ("psym", calledSymbol, 0),
    ("dfnk", functionKey, 2), ("bpar", parentheses, 0), ("sstr", quotedLiteral, 0),
    ("defk", definitionKey, 1)]

/-! ### Evaluation -/

/-- Whether no source in the table begins with a letter, and the tokens have the expressions that
are listed. -/
def isExpected (table : NamedPatterns Pattern) : Bool :=
  table.sources.all (fun entry ↦ !startsWithLetter entry.2) &&
    tokenExpressions.all fun token ↦
      (table.get? token.1).any fun pattern ↦
        pattern.regex = token.2.1 ∧ pattern.groupCount = token.2.2

/-- A definition with its template as a list of characters. -/
def spell (definition : String × String) : String × List Char :=
  (definition.1, definition.2.toList)

/-- The templates are spelled one by one, each by a list of characters that is given. -/
theorem map_spell_cons {name template : String} {letters : List Char}
    {rest : List (String × String)} {spelled : List (String × List Char)}
    (h : template = String.ofList letters) (hrest : rest.map spell = spelled) :
    ((name, template) :: rest).map spell = (name, letters) :: spelled := by
  rw [List.map_cons, hrest, spell, h, String.toList_ofList]

set_option maxRecDepth 10000 in
/-- The evaluation, once for all. -/
theorem isExpected_ofDefinitions :
    (NamedPatterns.ofDefinitions Pattern.compile? (definitions.map spell)).toOption.any
      isExpected = true := by
  apply Eq.trans
  · apply congrArg fun spelled ↦
      (NamedPatterns.ofDefinitions Pattern.compile? spelled).toOption.any isExpected
    unfold definitions
    repeat apply map_spell_cons rfl
    exact List.map_nil
  · decide +kernel

theorem lexicon_eq_of_eq_ok {table : NamedPatterns Pattern}
    (h : NamedPatterns.ofDefinitions Pattern.compile? (definitions.map spell) = .ok table) :
    lexicon = table := by
  have hlexicon : lexicon =
      (NamedPatterns.ofDefinitions Pattern.compile? (definitions.map spell)).toOption.getD
        .empty := rfl
  rw [hlexicon, h]
  rfl

/-- The table is that of the definitions, all of which can be made. -/
theorem isExpected_lexicon :
    NamedPatterns.ofDefinitions Pattern.compile? (definitions.map spell) = .ok lexicon ∧
      isExpected lexicon = true := by
  have hexpected := isExpected_ofDefinitions
  rcases h : NamedPatterns.ofDefinitions Pattern.compile? (definitions.map spell) with cause | table
  · rw [h] at hexpected
    cases hexpected
  · rw [h] at hexpected
    rw [lexicon_eq_of_eq_ok h]
    exact ⟨rfl, hexpected⟩

/-- No source in the lexicon begins with a letter. -/
theorem startsWithLetter_of_mem_lexicon {entry : String × List Char}
    (h : entry ∈ lexicon.sources) : startsWithLetter entry.2 = false := by
  have hall := (Bool.and_eq_true_iff.1 isExpected_lexicon.2).1
  simpa using List.all_eq_true.1 hall entry h

/-- The tokens have the expressions that are listed. -/
theorem exists_get?_of_mem_tokenExpressions {name : String} {regex : Regex} {groupCount : Nat}
    (h : (name, regex, groupCount) ∈ tokenExpressions) :
    ∃ source, lexicon.get? name = some ⟨source, regex, groupCount⟩ := by
  have hall := (Bool.and_eq_true_iff.1 isExpected_lexicon.2).2
  have htoken := List.all_eq_true.1 hall _ h
  obtain ⟨pattern, hget, hpattern⟩ := (Option.any_eq_true _ _).1 htoken
  obtain ⟨hregex, hcount⟩ : pattern.regex = regex ∧ pattern.groupCount = groupCount := by
    simpa using hpattern
  refine ⟨pattern.source, ?_⟩
  rw [hget, ← hregex, ← hcount]

theorem exists_get_of_mem_tokenExpressions {name : String} {regex : Regex} {groupCount : Nat}
    (h : (name, regex, groupCount) ∈ tokenExpressions) :
    ∃ pattern, lexicon.get name = .ok pattern ∧ pattern.regex = regex ∧
      pattern.groupCount = groupCount := by
  obtain ⟨source, hget⟩ := exists_get?_of_mem_tokenExpressions h
  exact ⟨⟨source, regex, groupCount⟩, by rw [NamedPatterns.get, hget], rfl, rfl⟩

/-- The tokens of a pattern are the texts of the language that it recognizes. -/
theorem isToken_eq_ok_true_iff {name : String} {pattern : Pattern} {l : Language Char}
    {text : List Char} (hget : lexicon.get name = .ok pattern) (h : pattern.regex.Recognizes l) :
    isToken name text = .ok true ↔ text ∈ l := by
  rw [← Pattern.isSome_fullMatch?_iff h, isToken, hget]
  exact ⟨Except.ok.inj, congrArg Except.ok⟩

end Lexicon

end ScriptForms

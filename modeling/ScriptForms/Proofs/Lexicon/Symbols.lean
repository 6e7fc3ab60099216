import ScriptForms.Proofs.Lexicon.Table

/-!
# Words, symbols and call sites

A word is made of letters and digits in parts that are joined by hyphens, a symbol is a word with a
mark behind it or without, and a qualified symbol has words in front that name its namespace. The
expressions of these tokens share long beginnings, so matching may have to go back from one
alternative to another. Which texts they match does not depend on that: their languages are found
part by part (`recognizes_word`, `recognizes_symbol`, `recognizes_qualifiedSymbol`).

None of these texts holds a parenthesis. So a call site, a symbol with an opening parenthesis behind
it, is found from the text before the first parenthesis (`call_sites_are_detected`).
-/

open scoped Computability

namespace ScriptForms

namespace Lexicon

open Regex

/-! ### Words and symbols -/

/-- One or more parts of ASCII letters and digits, joined by single hyphens. -/
def words : Language Char :=
  {text | ∃ parts, parts ≠ [] ∧ (∀ part ∈ parts, part ≠ [] ∧ ∀ c ∈ part, c.isAlphanum = true) ∧
    text = ['-'].intercalate parts}

/-- A word, with a mark behind it or without. -/
def symbols : Language Char :=
  {text | text ∈ words ∨ ∃ word ∈ words, ∃ mark ∈ ['?', '!', '.'], text = word ++ [mark]}

/-- A symbol behind a slash, with the words of its namespace in front. -/
def qualifiedSymbols : Language Char :=
  {text | ∃ names, names ≠ [] ∧ (∀ name ∈ names, name ∈ words) ∧
    ∃ symbol ∈ symbols, text = [':', ':'].intercalate names ++ '/' :: symbol}

/-! ### Their languages -/

theorem contains_wordSet (c : Char) : wordSet.contains c = c.isAlphanum := by
  have hlower : (CharRange.span 'a' 'z').contains c = c.isLower := rfl
  have hupper : (CharRange.span 'A' 'Z').contains c = c.isUpper := (Bool.decide_and _ _).symm
  have hdigit : (CharRange.span '0' '9').contains c = c.isDigit := rfl
  simp only [wordSet, CharSet.contains, List.any_cons, List.any_nil, hlower, hupper,
    hdigit, Bool.or_false,
    Bool.bne_false]
  exact (Bool.or_left_comm _ _ _).trans (Bool.or_assoc _ _ _).symm

theorem contains_markSet (c : Char) : markSet.contains c = true ↔ c ∈ ['?', '!', '.'] := by
  simp [markSet, CharSet.contains, contains_span_self]

/-- A part of a word is one or more letters or digits. -/
theorem mem_runs_wordSet_iff {text : List Char} :
    text ∈ runs wordSet 1 ↔ text ≠ [] ∧ ∀ c ∈ text, c.isAlphanum = true := by
  simp only [mem_runs_iff, contains_wordSet, ← List.length_pos_iff, Nat.succ_le_iff]

theorem recognizes_word : Recognizes word words := by
  have hpart : Recognizes wordPart (runs wordSet 1) := recognizes_loop_chars wordSet 1
  have hmore := ((recognizes_char '-').seq hpart).loop (nil_notMem_char_mul '-' _) 0
  rw [pow_zero, one_mul] at hmore
  have hlanguage : runs wordSet 1 * ({['-']} * runs wordSet 1)∗ = words := by
    ext text
    simp only [mem_mul_kstar_iff, mem_runs_wordSet_iff]
    exact Iff.rfl
  exact hlanguage ▸ hpart.seq hmore

theorem recognizes_symbol : Recognizes symbol symbols := by
  have hlanguage : words * (1 + letters markSet) = symbols := by
    ext text
    rw [mul_add, mul_one, Language.mem_add, Language.mem_mul]
    refine or_congr_right ⟨?_, ?_⟩
    · rintro ⟨word, hword, _, ⟨mark, hmark, rfl⟩, rfl⟩
      exact ⟨word, hword, mark, (contains_markSet mark).1 hmark, rfl⟩
    · rintro ⟨word, hword, mark, hmark, rfl⟩
      exact ⟨word, hword, [mark], ⟨mark, (contains_markSet mark).2 hmark, rfl⟩, rfl⟩
  exact hlanguage ▸ recognizes_word.seq (recognizes_chars markSet).optional

theorem colon_mul_colon (l : Language Char) : {[':']} * ({[':']} * l) =
    ({[':', ':']} * l : Language Char) := by
  ext text
  constructor
  · rintro ⟨_, rfl, _, ⟨_, rfl, rest, hrest, rfl⟩, rfl⟩
    exact ⟨[':', ':'], rfl, rest, hrest, rfl⟩
  · rintro ⟨_, rfl, rest, hrest, rfl⟩
    exact ⟨[':'], rfl, ':' :: rest, ⟨[':'], rfl, rest, hrest, rfl⟩, rfl⟩

/-- The words of a namespace. One word is an alternative of its own, since the expression of a
namespace asks for two. -/
theorem recognizes_namespace :
    Recognizes (.alt longNamespace word) (words * ({[':', ':']} * words)∗) := by
  have hname := (recognizes_char ':').seq ((recognizes_char ':').seq recognizes_word)
  have hmore := recognizes_word.seq (hname.loop (nil_notMem_char_mul ':' _) 1)
  rw [colon_mul_colon, pow_one] at hmore
  have hlanguage : words * ({[':', ':']} * words * ({[':', ':']} * words)∗) + words =
      words * ({[':', ':']} * words)∗ := by
    calc words * ({[':', ':']} * words * ({[':', ':']} * words)∗) + words
      _ = words * (1 + {[':', ':']} * words * ({[':', ':']} * words)∗) := by
        rw [mul_add, mul_one, add_comm]
      _ = words * ({[':', ':']} * words)∗ := by rw [Language.one_add_self_mul_kstar_eq_kstar]
  exact hlanguage ▸ hmore.alt recognizes_word

theorem recognizes_qualifiedSymbol : Recognizes qualifiedSymbol qualifiedSymbols := by
  have hlanguage : words * ({[':', ':']} * words)∗ * ({['/']} * symbols) = qualifiedSymbols := by
    ext text
    rw [Language.mem_mul]
    constructor
    · rintro ⟨space, hspace, _, ⟨_, rfl, symbol, hsymbol, rfl⟩, rfl⟩
      obtain ⟨names, hnonempty, hnames, rfl⟩ := mem_mul_kstar_iff.1 hspace
      exact ⟨names, hnonempty, hnames, symbol, hsymbol, rfl⟩
    · rintro ⟨names, hnonempty, hnames, symbol, hsymbol, rfl⟩
      exact ⟨_, mem_mul_kstar_iff.2 ⟨names, hnonempty, hnames, rfl⟩, '/' :: symbol,
        ⟨['/'], rfl, symbol, hsymbol, rfl⟩, rfl⟩
  exact hlanguage ▸ recognizes_namespace.seq ((recognizes_char '/').seq recognizes_symbol)

/-! ### Their characters -/

theorem mem_intercalate {separator : List Char} {items : List (List Char)} {c : Char}
    (h : c ∈ separator.intercalate items) : c ∈ separator ∨ ∃ item ∈ items, c ∈ item := by
  cases items with
  | nil => simp at h
  | cons item items =>
    rw [intercalate_cons, List.mem_append, List.mem_flatMap] at h
    rcases h with hitem | ⟨later, hlater, hc⟩
    · exact .inr ⟨item, List.mem_cons_self, hitem⟩
    · rcases List.mem_append.1 hc with hseparator | hlast
      · exact .inl hseparator
      · exact .inr ⟨later, List.mem_cons_of_mem item hlater, hlast⟩

/-- Whether a character may occur in symbols and their namespaces. -/
def isSymbolChar (c : Char) : Bool :=
  c.isAlphanum || ['-', '?', '!', '.', ':', '/'].contains c

/-- Letters, digits and hyphens are all there is in a word. -/
theorem isSymbolChar_of_mem_words {text : List Char} (h : text ∈ words) :
    ∀ c ∈ text, isSymbolChar c = true := by
  obtain ⟨parts, -, hparts, rfl⟩ := h
  intro c hc
  rcases mem_intercalate hc with hhyphen | ⟨part, hpart, hmem⟩
  · rw [List.mem_singleton.1 hhyphen]
    decide
  · rw [isSymbolChar, (hparts part hpart).2 c hmem, Bool.true_or]

/-- A symbol may have a mark besides. -/
theorem isSymbolChar_of_mem_symbols {text : List Char} (h : text ∈ symbols) :
    ∀ c ∈ text, isSymbolChar c = true := by
  rcases h with hword | ⟨word, hword, mark, hmark, rfl⟩
  · exact isSymbolChar_of_mem_words hword
  · refine List.forall_mem_append.2 ⟨isSymbolChar_of_mem_words hword,
      List.forall_mem_singleton.2 ?_⟩
    simp only [List.mem_cons, List.not_mem_nil, or_false] at hmark
    rcases hmark with rfl | rfl | rfl <;> decide

/-- A namespace adds colons and a slash. -/
theorem isSymbolChar_of_mem_qualifiedSymbols {text : List Char} (h : text ∈ qualifiedSymbols) :
    ∀ c ∈ text, isSymbolChar c = true := by
  obtain ⟨names, -, hnames, symbol, hsymbol, rfl⟩ := h
  refine List.forall_mem_append.2 ⟨fun c hc ↦ ?_,
    List.forall_mem_cons.2 ⟨by decide, isSymbolChar_of_mem_symbols hsymbol⟩⟩
  rcases mem_intercalate hc with hcolon | ⟨name, hname, hmem⟩
  · have hcolon : c = ':' := by simpa using hcolon
    rw [hcolon]
    decide
  · exact isSymbolChar_of_mem_words (hnames name hname) c hmem

/-! ### Call sites -/

/-- What may be called: a symbol, qualified or not. -/
def callees : Language Char :=
  {text | text ∈ symbols ∨ text ∈ qualifiedSymbols}

/-- No parenthesis stands in what is called, so a call ends at the first one. -/
theorem parenthesis_notMem_of_mem_callees {text : List Char} (h : text ∈ callees) : '(' ∉ text := by
  have hchars : ∀ c ∈ text, isSymbolChar c = true := by
    rcases h with hsymbol | hqualified
    · exact isSymbolChar_of_mem_symbols hsymbol
    · exact isSymbolChar_of_mem_qualifiedSymbols hqualified
  exact fun hmem ↦ absurd (hchars '(' hmem) (by decide)

/-- The expression of calls takes a symbol and an opening parenthesis. -/
theorem recognizes_calledSymbol : Recognizes calledSymbol (callees * {['(']}) := by
  have hlanguage : qualifiedSymbols + symbols = callees := add_comm qualifiedSymbols symbols
  exact hlanguage ▸ (recognizes_qualifiedSymbol.alt recognizes_symbol).seq (recognizes_char '(')

/-- A call site ends at its first parenthesis, so none begins another. -/
theorem eq_of_mem_callees_mul {first second : List Char} (hfirst : first ∈ callees * {['(']})
    (hsecond : second ∈ callees * {['(']}) (h : first <+: second) : first = second := by
  obtain ⟨callee, -, _, rfl, rfl⟩ := hfirst
  obtain ⟨other, hother, _, rfl, rfl⟩ := hsecond
  rcases List.prefix_concat_iff.1 h with hsame | hinside
  · exact hsame
  · exact absurd (hinside.subset (by simp)) (parenthesis_notMem_of_mem_callees hother)

/-- **Call sites are detected exactly.** The token of called symbols matches at the beginning of a
text if the text has a parenthesis and what stands before the first one can be called. The match
ends behind that parenthesis. -/
theorem call_sites_are_detected :
    ∃ pattern, lexicon.get "psym" = .ok pattern ∧
      ∀ text found, pattern.match? text = some found ↔
        ∃ callee rest, text = callee ++ '(' :: rest ∧ '(' ∉ callee ∧ callee ∈ callees ∧
          found = ⟨0, callee.length + 1, []⟩ := by
  have hmem : ("psym", calledSymbol, 0) ∈ tokenExpressions := by simp [tokenExpressions]
  obtain ⟨pattern, hget, hregex, hgroups⟩ := exists_get_of_mem_tokenExpressions hmem
  have hrecognizes : Recognizes pattern.regex (callees * {['(']}) :=
    hregex ▸ recognizes_calledSymbol
  refine ⟨pattern, hget, fun text found ↦ ?_⟩
  rw [Pattern.match?_eq_some_iff_of_unique hrecognizes fun first hfirst second hsecond ↦
    eq_of_mem_callees_mul hfirst hsecond]
  simp only [Pattern.plainMatch_of_groupCount hgroups]
  constructor
  · rintro ⟨_, ⟨callee, hcallee, _, rfl, rfl⟩, ⟨rest, rfl⟩, rfl⟩
    exact ⟨callee, rest, by simp, parenthesis_notMem_of_mem_callees hcallee, hcallee, by simp⟩
  · rintro ⟨callee, rest, rfl, -, hcallee, rfl⟩
    exact ⟨callee ++ ['('], ⟨callee, hcallee, ['('], rfl, rfl⟩, ⟨rest, by simp⟩, by simp⟩

end Lexicon

end ScriptForms

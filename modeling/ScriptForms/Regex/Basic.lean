import ScriptForms.Text.Blank
import ScriptForms.Text.DecimalDigit
import ScriptForms.Text.WordChar

/-!
# Regular expressions

Regular expressions as data: sets of characters, anchors, sequences, alternatives in order of
preference, counted repetition, numbered capture groups with back references, and lookahead.
-/

namespace ScriptForms

/-- One entry of a character set. -/
inductive CharRange where
  /-- The characters from `first` to `last`. -/
  | span (first last : Char)
  /-- The decimal digits, or every character but those. -/
  | digit (negated : Bool)
  /-- The blanks, or every character but those. -/
  | blank (negated : Bool)
  /-- The characters of words, or every character but those. -/
  | word (negated : Bool)
  deriving DecidableEq, Repr

/-- Whether the entry holds `c`. -/
def CharRange.contains (c : Char) : CharRange → Bool
  | span first last => first ≤ c && c ≤ last
  | digit negated => Text.isDecimalDigit c != negated
  | blank negated => Text.isBlank c != negated
  | word negated => Text.isWordChar c != negated

/-- A set of characters: those of its entries, or all others. -/
structure CharSet where
  negated : Bool
  entries : List CharRange
  deriving DecidableEq, Repr

/-- Whether the set holds `c`. -/
def CharSet.contains (set : CharSet) (c : Char) : Bool :=
  set.entries.any (·.contains c) != set.negated

/-- How a repetition chooses the number of its rounds. -/
inductive Greed where
  /-- As many as possible, fewer if what follows asks for it. -/
  | greedy
  /-- As few as possible, more if what follows asks for it. -/
  | reluctant
  /-- As many as possible, whatever follows. -/
  | possessive
  deriving DecidableEq, Repr

/-- A regular expression. -/
inductive Regex where
  /-- The empty text. -/
  | empty
  /-- One character of a set. -/
  | chars (set : CharSet)
  /-- The beginning of the text. -/
  | atStart
  /-- The end of the text, or the place before a line feed that ends it. -/
  | atEnd
  /-- The end of the text. -/
  | atVeryEnd
  /-- The edge of a word, or any other place if `negated`. -/
  | wordEdge (negated : Bool)
  /-- The first, then the second. -/
  | seq (first second : Regex)
  /-- The first, or else the second. -/
  | alt (first second : Regex)
  /-- At least `min` and at most `max` rounds of the body. -/
  | loop (greed : Greed) (min : Nat) (max : Option Nat) (body : Regex)
  /-- The body, whose text is captured under a number. -/
  | capture (index : Nat) (body : Regex)
  /-- The text that a group has captured. -/
  | backReference (index : Nat)
  /-- A place at which the body matches, or does not if `negated`. -/
  | lookahead (negated : Bool) (body : Regex)
  deriving DecidableEq, Repr

namespace Regex

/-- One given character. -/
def char (c : Char) : Regex :=
  chars ⟨false, [.span c c]⟩

/-- Any character but a line feed. -/
def anyChar : Regex :=
  chars ⟨true, [.span '\n' '\n']⟩

/-- One after the other. -/
def concat : List Regex → Regex
  | [] => empty
  | [r] => r
  | r :: rest => seq r (concat rest)

end Regex

end ScriptForms

import ScriptForms.Toml.Basic

/-!
# Texts in TOML

The four ways to write a text: basic strings, in which a backslash starts an escape, literal strings
without escapes, and both of them over several lines between three quotes. In a basic string of
several lines a backslash at the end of a line leaves out the line end and the blanks behind it.
-/

namespace ScriptForms.Toml

/-- The outcome of a reading function: a value and the characters left, or an error. -/
abbrev Parsed (α : Type) := Except ReadError (α × List Char)

/-- Whether a character is a blank within a line. -/
def isLineBlank (c : Char) : Bool :=
  c == ' ' || c == '\t'

/-- `cs` without leading blanks and tabs. -/
def skipBlanks (cs : List Char) : List Char :=
  cs.dropWhile isLineBlank

/-- Whether a character may not stand in comments and strings: the control characters but the
tab. -/
def isIllegal (c : Char) : Bool :=
  (c.toNat < 0x20 && c != '\t') || c.toNat == 0x7F

/-! ### Escapes -/

/-- The character that a one-letter escape stands for. -/
def escapedChar? : Char → Option Char
  | 'b' => some '\x08'
  | 't' => some '\t'
  | 'n' => some '\n'
  | 'f' => some '\x0C'
  | 'r' => some '\r'
  | '\x22' => some '\x22'
  | '\\' => some '\\'
  | _ => none

/-- The character whose code point is written by exactly `count` hexadecimal digits, and the
characters behind them. -/
def hexChar (count : Nat) (cs : List Char) : Parsed Char :=
  match (cs.take count).mapM Digits.value? with
  | none => .error .badEscape
  | some values =>
    let code := Digits.ofValues 16 values
    if values.length = count ∧ code.isValidChar then .ok (Char.ofNat code, cs.drop count)
    else .error .badEscape

/-- The character of an escape, behind its backslash. -/
def escape : List Char → Parsed Char
  | 'u' :: rest => hexChar 4 rest
  | 'U' :: rest => hexChar 8 rest
  | c :: rest =>
    match escapedChar? c with
    | some found => .ok (found, rest)
    | none => .error .badEscape
  | [] => .error .badEscape

/-! ### One line -/

/-- The rest of a basic string, behind its opening quote, on an amount of fuel that is its
length. -/
def basicString : Nat → List Char → Except ReadError (List Char × List Char)
  | 0, _ => .error .unterminatedString
  | _, [] => .error .unterminatedString
  | _, '\x22' :: rest => .ok ([], rest)
  | fuel + 1, '\\' :: rest => do
    let (found, rest) ← escape rest
    let (text, rest) ← basicString fuel rest
    return (found :: text, rest)
  | fuel + 1, c :: rest => do
    if isIllegal c then throw .illegalCharacter
    let (text, rest) ← basicString fuel rest
    return (c :: text, rest)

/-- The rest of a literal string, behind its opening quote. -/
def literalString : List Char → Parsed (List Char)
  | [] => .error .unterminatedString
  | '\x27' :: rest => .ok ([], rest)
  | c :: rest =>
    if isIllegal c then .error .illegalCharacter
    else (literalString rest).map fun (text, rest) ↦ (c :: text, rest)

/-! ### Several lines -/

/-- Whether a character may not stand in a string of several lines. -/
def isIllegalInLines (c : Char) : Bool :=
  isIllegal c && c != '\n'

/-- What is left behind a line end that is left out, behind its backslash; nothing but blanks may
stand before the line end. -/
def skipLineEnd (cs : List Char) : Except ReadError (List Char) :=
  match skipBlanks cs with
  | [] => .ok []
  | '\n' :: rest => .ok (rest.dropWhile fun c ↦ isLineBlank c || c == '\n')
  | _ => .error .badEscape

/-- The rest of a basic string of several lines, up to its three closing quotes, on an amount of
fuel that is its length. -/
def basicLines : Nat → List Char → Except ReadError (List Char × List Char)
  | 0, _ => .error .unterminatedString
  | _, [] => .error .unterminatedString
  | _, '\x22' :: '\x22' :: '\x22' :: rest => .ok ([], rest)
  | fuel + 1, '\\' :: rest => do
    if rest.head?.any fun c ↦ isLineBlank c || c == '\n' then
      basicLines fuel (← skipLineEnd rest)
    else
      let (found, rest) ← escape rest
      let (text, rest) ← basicLines fuel rest
      return (found :: text, rest)
  | fuel + 1, c :: rest => do
    if isIllegalInLines c then throw .illegalCharacter
    let (text, rest) ← basicLines fuel rest
    return (c :: text, rest)

/-- The rest of a literal string of several lines, up to its three closing quotes. -/
def literalLines : List Char → Parsed (List Char)
  | [] => .error .unterminatedString
  | '\x27' :: '\x27' :: '\x27' :: rest => .ok ([], rest)
  | c :: rest =>
    if isIllegalInLines c then .error .illegalCharacter
    else (literalLines rest).map fun (text, rest) ↦ (c :: text, rest)

/-- A text with one or two quotes that stand right behind its closing quotes and belong to it. -/
def withClosingQuotes (quote : Char) (text rest : List Char) : List Char × List Char :=
  let extra := (rest.take 2).takeWhile (· == quote)
  (text ++ extra, rest.drop extra.length)

/-- `cs` without a line feed at its front. -/
def skipFirstLineEnd : List Char → List Char
  | '\n' :: rest => rest
  | cs => cs

/-! ### All texts -/

/-- The text at the front, in whichever way it is written; nothing if no quote opens a text. -/
def text? (cs : List Char) : Option (Parsed (List Char)) :=
  match cs with
  | '\x22' :: '\x22' :: '\x22' :: rest =>
    some ((basicLines (rest.length + 1) (skipFirstLineEnd rest)).map fun (text, rest) ↦
      withClosingQuotes '\x22' text rest)
  | '\x22' :: rest => some (basicString (rest.length + 1) rest)
  | '\x27' :: '\x27' :: '\x27' :: rest =>
    some ((literalLines (skipFirstLineEnd rest)).map fun (text, rest) ↦
      withClosingQuotes '\x27' text rest)
  | '\x27' :: rest => some (literalString rest)
  | _ => none

end ScriptForms.Toml

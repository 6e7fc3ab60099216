import ScriptForms.Json.Basic
import ScriptForms.Number.Digits
import ScriptForms.Text.CodePoints

/-!
# Reading JSON text

A reader of JSON text that reports the first offence with its place. Besides the standard grammar it
takes the numbers `NaN`, `Infinity` and `-Infinity`. A number ends where its grammar ends, so what
follows is extra data. Raw control characters are refused inside strings, and so are whole numbers
of too many digits.

The texts of strings may hold surrogates without their other half, which only escapes can name.

A parsing function takes the characters still to be read and returns a value with the characters
left, or a fault with the characters from the offence on. The recursion is bounded by an amount of
fuel, which is the length of the text and so never runs out: every call is made after a character
was consumed.
-/

namespace ScriptForms.Json

/-- What is wrong with a JSON text. -/
inductive Fault where
  | expectingValue
  | expectingName
  | expectingColon
  | expectingComma
  | unterminatedString
  | controlCharacter
  | badEscape
  | badUnicodeEscape
  | extraData
  | byteOrderMark
  | integerTooLong
  deriving DecidableEq, Repr

/-- The wording of a fault. -/
def Fault.message : Fault → String
  | expectingValue => "Expecting value"
  | expectingName => "Expecting property name enclosed in double quotes"
  | expectingColon => "Expecting ':' delimiter"
  | expectingComma => "Expecting ',' delimiter"
  | unterminatedString => "Unterminated string starting at"
  | controlCharacter => "Invalid control character at"
  | badEscape => "Invalid \\escape"
  | badUnicodeEscape => "Invalid \\uXXXX escape"
  | extraData => "Extra data"
  | byteOrderMark => "Unexpected UTF-8 BOM (decode using utf-8-sig)"
  | integerTooLong => "Too many digits"

/-- A fault and how many characters stand before it. -/
structure ReadError where
  fault : Fault
  offset : Nat
  deriving DecidableEq, Repr

/-- The wording of an error in `text`, with line and column counted from one. -/
def ReadError.message (text : String) (e : ReadError) : String :=
  let before := text.toList.take e.offset
  let line := before.count '\n' + 1
  let column := (before.reverse.takeWhile (· != '\n')).length + 1
  e.fault.message ++ ": line " ++ toString line ++ " column " ++ toString column ++
    " (char " ++ toString e.offset ++ ")"

/-- The outcome of a parsing function: a value and the characters left, or a fault and the
characters from the offence on. -/
abbrev Parsed (α : Type) := Except (Fault × List Char) (α × List Char)

/-- Whether `c` may stand between tokens. -/
def isSpace (c : Char) : Bool :=
  c == ' ' || c == '\t' || c == '\n' || c == '\r'

/-- `cs` without leading space. -/
def skipSpace (cs : List Char) : List Char :=
  cs.dropWhile isSpace

/-- The number written by four hexadecimal digits. -/
def hex4? (a b c d : Char) : Option Nat :=
  ([a, b, c, d].mapM Digits.value?).map (Digits.ofValues 16)

/-- The character that a one-letter escape stands for. -/
def escapedChar? : Char → Option Char
  | '\x22' => some '\x22'
  | '\\' => some '\\'
  | '/' => some '/'
  | 'b' => some '\x08'
  | 'f' => some '\x0C'
  | 'n' => some '\n'
  | 'r' => some '\r'
  | 't' => some '\t'
  | _ => none

/-- Whether `n` is the first half of a surrogate pair. -/
def isHighSurrogate (n : Nat) : Bool :=
  0xD800 ≤ n && n < 0xDC00

/-- Whether `n` is the second half of a surrogate pair. -/
def isLowSurrogate (n : Nat) : Bool :=
  0xDC00 ≤ n && n < 0xE000

/-- Puts a code point behind what was read, last character first. -/
def push (code : Nat) (acc : List Char) : List Char :=
  (Text.ofCodePoint code).reverse ++ acc

/-- Reads the rest of a string, after its opening quote. `start` are the characters from that quote
on and `acc` holds what was read, last character first. A surrogate without its other half is
kept. -/
def stringBody (start : List Char) : List Char → List Char → Parsed String
  | [], _ => .error (.unterminatedString, start)
  | '\x22' :: rest, acc => .ok (String.ofList acc.reverse, rest)
  | '\\' :: 'u' :: a :: b :: c :: d :: '\\' :: 'u' :: e :: f :: g :: h :: next :: rest, acc =>
    let fault := 'u' :: a :: b :: c :: d :: '\\' :: 'u' :: e :: f :: g :: h :: next :: rest
    match hex4? a b c d with
    | none => .error (.badUnicodeEscape, fault)
    | some high =>
      if isHighSurrogate high then
        match hex4? e f g h with
        | none => .error (.badUnicodeEscape, 'u' :: e :: f :: g :: h :: next :: rest)
        | some low =>
          if isLowSurrogate low then
            stringBody start (next :: rest)
              (push (0x10000 + (high - 0xD800) * 0x400 + (low - 0xDC00)) acc)
          else
            stringBody start ('\\' :: 'u' :: e :: f :: g :: h :: next :: rest) (push high acc)
      else
        stringBody start ('\\' :: 'u' :: e :: f :: g :: h :: next :: rest) (push high acc)
  | '\\' :: 'u' :: a :: b :: c :: d :: next :: rest, acc =>
    match hex4? a b c d with
    | none => .error (.badUnicodeEscape, 'u' :: a :: b :: c :: d :: next :: rest)
    | some code => stringBody start (next :: rest) (push code acc)
  | '\\' :: 'u' :: rest, _ => .error (.badUnicodeEscape, 'u' :: rest)
  | ['\\'], _ => .error (.unterminatedString, start)
  | '\\' :: c :: rest, acc =>
    match escapedChar? c with
    | some e => stringBody start rest (e :: acc)
    | none => .error (.badEscape, '\\' :: c :: rest)
  | c :: rest, acc =>
    if c.toNat < 0x20 then .error (.controlCharacter, c :: rest)
    else stringBody start rest (push c.toNat acc)

/-- The digits of the fraction at the front of `cs` and what follows: a point counts only with a
digit behind it. -/
def fraction (cs : List Char) : Option (List Char) × List Char :=
  match cs with
  | '.' :: rest =>
    let digits := rest.takeWhile Char.isDigit
    if digits.isEmpty then (none, cs) else (some digits, rest.dropWhile Char.isDigit)
  | _ => (none, cs)

/-- The exponent at the front of `cs` and what follows: an `e` counts only with a digit behind it,
after an optional sign. -/
def exponent (cs : List Char) : Option Int × List Char :=
  match cs with
  | [] => (none, cs)
  | mark :: rest =>
    if mark == 'e' || mark == 'E' then
      let (negative, unsigned) : Bool × List Char :=
        match rest with
        | '-' :: unsigned => (true, unsigned)
        | '+' :: unsigned => (false, unsigned)
        | _ => (false, rest)
      let digits := unsigned.takeWhile Char.isDigit
      if digits.isEmpty then (none, cs)
      else
        let size : Int := Digits.ofChars 10 digits
        (some (if negative then -size else size), unsigned.dropWhile Char.isDigit)
    else (none, cs)

/-- Reads a number. A whole part starts with a zero only when it is zero. -/
def number (cs : List Char) : Parsed Json :=
  let (negative, unsigned) : Bool × List Char :=
    match cs with
    | '-' :: unsigned => (true, unsigned)
    | _ => (false, cs)
  let whole :=
    match unsigned with
    | '0' :: _ => ['0']
    | _ => unsigned.takeWhile Char.isDigit
  if whole.isEmpty then .error (.expectingValue, cs)
  else
    let (fractionDigits, rest) := fraction (unsigned.drop whole.length)
    let (exponentValue, rest) := exponent rest
    if fractionDigits.isNone && exponentValue.isNone then
      let size : Int := Digits.ofChars 10 whole
      if Digits.maxCount < whole.length then .error (.integerTooLong, cs)
      else .ok (.int (if negative then -size else size), rest)
    else
      let places := fractionDigits.getD []
      .ok (.float (Binary64.ofDecimal negative (Digits.ofChars 10 (whole ++ places))
        (exponentValue.getD 0 - places.length)), rest)

/-- The value and the spelling of each literal word. -/
def literals : List (List Char × Json) :=
  [("null".toList, .null), ("true".toList, .bool true), ("false".toList, .bool false),
   ("NaN".toList, .float .nan), ("Infinity".toList, .float (.infinite false)),
   ("-Infinity".toList, .float (.infinite true))]

/-- Reads a value that is neither a list nor an object: a string, a literal word or a number. -/
def scalar (cs : List Char) : Parsed Json :=
  match cs with
  | '\x22' :: rest => (stringBody cs rest []).map fun (text, rest) ↦ (.str text, rest)
  | _ =>
    match literals.find? fun literal ↦ literal.1.isPrefixOf cs with
    | some (word, value) => .ok (value, cs.drop word.length)
    | none => number cs

mutual

/-- Reads a value that starts with the first character. -/
def value : Nat → List Char → Parsed Json
  | 0, cs => .error (.expectingValue, cs)
  | fuel + 1, cs =>
    match cs with
    | '[' :: rest =>
      match skipSpace rest with
      | ']' :: rest => .ok (.arr [], rest)
      | rest => (elements fuel rest).map fun (items, rest) ↦ (.arr items, rest)
    | '\x7b' :: rest =>
      match skipSpace rest with
      | '\x7d' :: rest => .ok (.obj [], rest)
      | rest => (members fuel rest).map fun (entries, rest) ↦ (.ofEntries entries, rest)
    | _ => scalar cs

/-- Reads the items of a list up to its closing bracket. -/
def elements : Nat → List Char → Except (Fault × List Char) (List Json × List Char)
  | 0, cs => .error (.expectingValue, cs)
  | fuel + 1, cs => do
    let (item, rest) ← value fuel cs
    match skipSpace rest with
    | ']' :: rest => return ([item], rest)
    | ',' :: rest =>
      let (items, rest) ← elements fuel (skipSpace rest)
      return (item :: items, rest)
    | rest => throw (.expectingComma, rest)

/-- Reads the entries of an object up to its closing brace. -/
def members :
    Nat → List Char → Except (Fault × List Char) (List (String × Json) × List Char)
  | 0, cs => .error (.expectingName, cs)
  | fuel + 1, cs => do
    let '\x22' :: afterQuote := cs | throw (.expectingName, cs)
    let (name, rest) ← stringBody cs afterQuote []
    let ':' :: rest := skipSpace rest | throw (.expectingColon, skipSpace rest)
    let (item, rest) ← value fuel (skipSpace rest)
    match skipSpace rest with
    | '\x7d' :: rest => return ([(name, item)], rest)
    | ',' :: rest =>
      let (entries, rest) ← members fuel (skipSpace rest)
      return ((name, item) :: entries, rest)
    | rest => throw (.expectingComma, rest)

end

/-- Reads a text that holds one JSON value and nothing else. -/
def parse (text : String) : Except ReadError Json :=
  let cs := text.toList
  let located (fault : Fault × List Char) : ReadError :=
    ⟨fault.1, cs.length - fault.2.length⟩
  if cs.head? = some '\uFEFF' then .error ⟨.byteOrderMark, 0⟩
  else
    match value (2 * cs.length + 2) (skipSpace cs) with
    | .error fault => .error (located fault)
    | .ok (result, rest) =>
      match skipSpace rest with
      | [] => .ok result
      | rest => .error (located (.extraData, rest))

end ScriptForms.Json

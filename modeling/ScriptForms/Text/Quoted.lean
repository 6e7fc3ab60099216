import ScriptForms.Text.CodePoints
import ScriptForms.Text.Printable

/-!
# Quoted text

The quoted form of a text in messages. The text stands between single quotes, or between double
quotes when it holds a single quote and no double quote. Inside, the quote in use and the backslash
are escaped by a backslash, line feed, carriage return and tab have their usual short escapes, and
every other character that is not printable, or surrogate, is written by its code point in
hexadecimal.
-/

namespace ScriptForms.Text

/-- The hexadecimal digits of `n`, in lower case, with leading zeros up to `width` digits. -/
def hexDigits (width n : Nat) : List Char :=
  let digits := Nat.toDigits 16 n
  List.replicate (width - digits.length) '0' ++ digits

/-- The mark that opens and closes the quoted form of `cs`. -/
def quoteMark (cs : List Char) : Char :=
  if cs.contains '\x27' && !cs.contains '\x22' then '\x22' else '\x27'

/-- How `c` stands in a text quoted by `mark`. -/
def quoteChar (mark c : Char) : List Char :=
  if c = mark || c = '\\' then ['\\', c]
  else if c = '\n' then ['\\', 'n']
  else if c = '\r' then ['\\', 'r']
  else if c = '\t' then ['\\', 't']
  else if isPrintable c then [c]
  else if c.toNat < 0x100 then '\\' :: 'x' :: hexDigits 2 c.toNat
  else if c.toNat < 0x10000 then '\\' :: 'u' :: hexDigits 4 c.toNat
  else '\\' :: 'U' :: hexDigits 8 c.toNat

/-- How a code point stands in a text quoted by `mark`. -/
def quoteCodePoint (mark : Char) (code : Nat) : List Char :=
  if isSurrogate code then '\\' :: 'u' :: hexDigits 4 code else quoteChar mark (Char.ofNat code)

/-- The quoted form of a text. -/
def quoted (text : String) : String :=
  let cs := text.toList
  let mark := quoteMark cs
  String.ofList (mark :: (cs.flatMap (quoteChar mark) ++ [mark]))

/-- The quoted form of a text of a tree, by its code points. -/
def quotedCodePoints (text : String) : String :=
  let cs := text.toList
  let mark := quoteMark cs
  String.ofList (mark :: ((codePoints cs).flatMap (quoteCodePoint mark) ++ [mark]))

end ScriptForms.Text

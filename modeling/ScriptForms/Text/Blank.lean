import ScriptForms.Text.RangeTable

/-!
# Blank characters

The characters that count as white space wherever text is trimmed or a pattern asks for a blank: the
Unicode white space characters together with the four information separators U+001C to U+001F.
-/

namespace ScriptForms.Text

/-- The code points of blank characters. -/
def blankRanges : RangeTable :=
  [(0x09, 0x0D), (0x1C, 0x20), (0x85, 0x85), (0xA0, 0xA0), (0x1680, 0x1680), (0x2000, 0x200A),
   (0x2028, 0x2029), (0x202F, 0x202F), (0x205F, 0x205F), (0x3000, 0x3000)]

/-- Whether `c` is white space. -/
def isBlank (c : Char) : Bool :=
  blankRanges.contains c

/-- The code points of the blank characters that end a line. -/
def lineBreakRanges : RangeTable :=
  [(0x0A, 0x0D), (0x1C, 0x1E), (0x85, 0x85), (0x2028, 0x2029)]

/-- Whether `c` ends a line. -/
def isLineBreak (c : Char) : Bool :=
  lineBreakRanges.contains c

/-- `cs` without its leading blanks. -/
def trimLeft (cs : List Char) : List Char :=
  cs.dropWhile isBlank

/-- `cs` without its trailing blanks. -/
def trimRight (cs : List Char) : List Char :=
  (cs.reverse.dropWhile isBlank).reverse

/-- `cs` without its leading and trailing blanks. -/
def trim (cs : List Char) : List Char :=
  trimRight (trimLeft cs)

end ScriptForms.Text

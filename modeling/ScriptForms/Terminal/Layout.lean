import ScriptForms.Terminal.Columns
import ScriptForms.Text.Blank

/-!
# Texts on a screen

How a text is laid out in a given number of columns. Control characters that would move the cursor
do not show, a tab goes on to the next multiple of eight columns, and a line that is too long is
broken before a word, or inside a word that is longer than a whole line. Blanks at the end of a line
do not show.
-/

namespace ScriptForms.Terminal.Layout

/-- Whether a character would move the cursor or ring a bell and is left out. -/
def isCursorControl (c : Char) : Bool :=
  c == '\x07' || c == '\x08' || c == '\x0B' || c == '\x0C' || c == '\r'

/-- Replaces the tabs of a line that starts at a column by blanks up to the next tab stop. -/
def expandTabs (column : Nat) : List Char → List Char
  | [] => []
  | '\t' :: rest =>
    let count := 8 - column % 8
    List.replicate count ' ' ++ expandTabs (column + count) rest
  | c :: rest => c :: expandTabs (column + columns c) rest

/-! ### Breaking lines -/

/-- The words of a line, each with the blanks behind it, and the first also with those before it, on
an amount of fuel that is the length of the line. -/
def wordsWithin : Nat → List Char → List (List Char)
  | 0, _ => []
  | fuel + 1, cs =>
    let blanks := cs.takeWhile Text.isBlank
    let core := (cs.drop blanks.length).takeWhile (!Text.isBlank ·)
    let rest := cs.drop (blanks.length + core.length)
    let trail := rest.takeWhile Text.isBlank
    if core.isEmpty then []
    else (blanks ++ core ++ trail) :: wordsWithin fuel (rest.drop trail.length)

/-- Cuts a word into parts of at most `width` columns, after a part that was begun, last character
first. -/
def chop (width : Nat) : List Char → List Char → List (List Char)
  | part, [] => [part.reverse]
  | part, c :: rest =>
    if columnsOf part + columns c ≤ width then chop width (c :: part) rest
    else part.reverse :: chop width [c] rest

/-- Lines that were filled so far. -/
structure Filled where
  /-- The lines that are complete. -/
  lines : List (List Char)
  /-- The line that is being filled. -/
  current : List Char
  /-- The columns that the words in this line take. -/
  column : Nat

/-- Whether nothing was filled in yet. -/
def Filled.isBlank (filled : Filled) : Bool :=
  filled.lines.isEmpty && filled.current.isEmpty

/-- Begins a new line with a text, or the first line if there is none yet. -/
def Filled.breakBefore (filled : Filled) (text : List Char) : Filled where
  lines := if filled.isBlank then [] else filled.lines ++ [filled.current]
  current := text
  column := columnsOf text

/-- Fills in a word. -/
def Filled.add (width : Nat) (filled : Filled) (word : List Char) : Filled :=
  let size := columnsOf (Text.trimRight word)
  if filled.column + size ≤ width then
    ⟨filled.lines, filled.current ++ word, filled.column + columnsOf word⟩
  else if width < size then (chop width [] word).foldl Filled.breakBefore filled
  else filled.breakBefore word

/-- Breaks a line into lines of at most `width` columns, blanks at their ends aside. -/
def breakLine (width : Nat) (line : List Char) : List (List Char) :=
  match wordsWithin line.length line with
  | [] => [line]
  | words =>
    let filled := words.foldl (Filled.add width) ⟨[], [], 0⟩
    filled.lines ++ [filled.current]

/-- The front of a line that fits into `width` columns. -/
def fit : Nat → List Char → List Char
  | _, [] => []
  | width, c :: rest => if columns c ≤ width then c :: fit (width - columns c) rest else []

/-- `cs` without the blanks at its end. -/
def dropTrailingBlanks (cs : List Char) : List Char :=
  (cs.reverse.dropWhile (· == ' ')).reverse

/-- The lines that a text takes on a screen of `width` columns. -/
def linesOf (width : Nat) (text : List Char) : List (List Char) :=
  ((text.filter (!isCursorControl ·)).splitOn '\n').flatMap fun line ↦
    (breakLine width (expandTabs 0 line)).map fun part ↦ dropTrailingBlanks (fit width part)

end ScriptForms.Terminal.Layout

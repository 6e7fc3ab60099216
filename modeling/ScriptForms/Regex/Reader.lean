import ScriptForms.Number.Digits
import ScriptForms.Regex.Basic

/-!
# Reading regular expressions

The written form of regular expressions in which patterns are given. It has literals, escapes, the
point, character sets, capturing groups `( )`, plain groups `(?: )`, groups `(?x: )` in which blanks
and comments do not count, lookahead `(?= )` and `(?! )`, back references, alternatives, the anchors
`^`, `$`, `\A`, `\Z`, `\b` and `\B`, and the repetitions `*`, `+`, `?`, `{n}`, `{n,}`, `{,m}` and
`{n,m}`, each of which a `?` makes reluctant and a `+` possessive. A brace that starts no repetition
is a literal.

There are richer written forms, with names for groups and characters, flags, atomic and conditional
groups, comments and lookbehind. These are not read here. Tables of patterns do not depend on it:
they take whatever compiler they are given.

The text is first cut into tokens, a backslash together with the character behind it. The reading
functions recurse on an amount of fuel that is three times the number of tokens and so never runs
out.
-/

namespace ScriptForms.Regex

/-- Why a text is no regular expression. -/
inductive ReadError where
  | finalBackslash
  | badEscape
  | unterminatedSet
  | badRange
  | unterminatedGroup
  | unbalancedGroup
  | unknownGroup
  | missingGroup
  | openGroup
  | nothingToRepeat
  | multipleRepeat
  | badBounds
  | tooManyRounds
  deriving DecidableEq, Repr

/-- A character, or a backslash with the character behind it. -/
inductive Token where
  | plain (c : Char)
  | escaped (c : Char)
  deriving DecidableEq, Repr

/-- Cuts a text into tokens. -/
def tokens : List Char → Except ReadError (List Token)
  | [] => .ok []
  | ['\\'] => .error .finalBackslash
  | '\\' :: c :: rest => (tokens rest).map (.escaped c :: ·)
  | c :: rest => (tokens rest).map (.plain c :: ·)

/-! ### Escapes -/

/-- The digits of a base at the front, at most `count` of them, and what follows. -/
def takeDigits (base : Nat) : Nat → List Token → List Nat × List Token
  | count + 1, .plain c :: rest =>
    match Digits.value? c with
    | some value =>
      if value < base then
        let (values, rest) := takeDigits base count rest
        (value :: values, rest)
      else ([], .plain c :: rest)
    | none => ([], .plain c :: rest)
  | _, rest => ([], rest)

/-- The character with code point `n`, if there is one. -/
def charOfCode (n : Nat) : Except ReadError Char :=
  if n.isValidChar then .ok (Char.ofNat n) else .error .badEscape

/-- A character written by exactly `count` hexadecimal digits. -/
def hexEscape (count : Nat) (rest : List Token) : Except ReadError (Char × List Token) := do
  let (digits, rest) := takeDigits 16 count rest
  if digits.length = count then return (← charOfCode (Digits.ofValues 16 digits), rest)
  else throw .badEscape

/-- The control character that a letter stands for behind a backslash. -/
def controlEscape? : Char → Option Char
  | 'a' => some '\x07'
  | 'f' => some '\x0C'
  | 'n' => some '\n'
  | 'r' => some '\r'
  | 't' => some '\t'
  | 'v' => some '\x0B'
  | _ => none

/-- The set that a letter stands for behind a backslash. -/
def setEscape? : Char → Option CharRange
  | 'd' => some (.digit false)
  | 'D' => some (.digit true)
  | 's' => some (.blank false)
  | 'S' => some (.blank true)
  | 'w' => some (.word false)
  | 'W' => some (.word true)
  | _ => none

/-- The character of an escape that is neither a set nor a number: a control character, a code point
in hexadecimal, or a character that is no letter. -/
def charEscape (c : Char) (rest : List Token) : Except ReadError (Char × List Token) :=
  match controlEscape? c with
  | some control => .ok (control, rest)
  | none =>
    if c = 'x' then hexEscape 2 rest
    else if c = 'u' then hexEscape 4 rest
    else if c = 'U' then hexEscape 8 rest
    else if c.isAlphanum then .error .badEscape
    else .ok (c, rest)

/-! ### Character sets -/

/-- An entry of a set that starts with `token`. -/
def setEntry (token : Token) (rest : List Token) : Except ReadError (CharRange × List Token) :=
  match token with
  | .plain c => .ok (.span c c, rest)
  | .escaped c =>
    match setEscape? c with
    | some entry => .ok (entry, rest)
    | none => do
      if c = 'b' then return (.span '\x08' '\x08', rest)
      else if '0' ≤ c ∧ c ≤ '7' then
        let (digits, rest) := takeDigits 8 2 rest
        let code := Digits.ofValues 8 ((c.toNat - '0'.toNat) :: digits)
        if 0o377 < code then throw .badEscape
        let found ← charOfCode code
        return (.span found found, rest)
      else
        let (found, rest) ← charEscape c rest
        return (.span found found, rest)

/-- The range from one entry to another, both of which must be single characters in order. -/
def rangeOf : CharRange → CharRange → Except ReadError CharRange
  | .span first _, .span last _ =>
    if last < first then .error .badRange else .ok (.span first last)
  | _, _ => .error .badRange

/-- The entries of a set up to its closing bracket. A bracket in the first place is an entry, and so
is a hyphen in the last. -/
def setEntries : Nat → List CharRange → List Token →
    Except ReadError (List CharRange × List Token)
  | 0, _, _ => .error .unterminatedSet
  | _ + 1, _, [] => .error .unterminatedSet
  | fuel + 1, entries, token :: rest => do
    if token = .plain ']' ∧ entries ≠ [] then return (entries, rest)
    let (entry, rest) ← setEntry token rest
    match rest with
    | [.plain '-'] => throw .unterminatedSet
    | .plain '-' :: .plain ']' :: rest => return (entries ++ [entry, .span '-' '-'], rest)
    | .plain '-' :: token :: rest =>
      let (last, rest) ← setEntry token rest
      let range ← rangeOf entry last
      setEntries fuel (entries ++ [range]) rest
    | rest => setEntries fuel (entries ++ [entry]) rest

/-- A set, behind its opening bracket. -/
def charSet (rest : List Token) : Except ReadError (CharSet × List Token) := do
  let (negated, rest) : Bool × List Token :=
    match rest with
    | .plain '^' :: rest => (true, rest)
    | _ => (false, rest)
  let (entries, rest) ← setEntries (rest.length + 1) [] rest
  return (⟨negated, entries⟩, rest)

/-! ### Repetitions -/

/-- The least and the greatest number of rounds. -/
structure Bounds where
  min : Nat
  max : Option Nat

/-- The bounds of repetitions are less than this. -/
def roundLimit : Nat :=
  4294967295

/-- Whether a repetition may have the given bounds. -/
def Bounds.isAllowed (bounds : Bounds) : Bool :=
  bounds.min < roundLimit && bounds.max.all (· < roundLimit)

/-- The number at the front, if there is one, and what follows. -/
def takeNumber (rest : List Token) : Option Nat × List Token :=
  let (digits, rest) := takeDigits 10 rest.length rest
  (if digits.isEmpty then none else some (Digits.ofValues 10 digits), rest)

/-- The bounds between braces, behind the opening one, or nothing if the brace is a literal. -/
def braceBounds? (rest : List Token) : Option (Bounds × List Token) :=
  match rest with
  | .plain '\x7d' :: _ => none
  | _ =>
    let (low, rest) := takeNumber rest
    match rest with
    | .plain '\x7d' :: rest => low.map fun n ↦ (⟨n, some n⟩, rest)
    | .plain ',' :: rest =>
      let (high, rest) := takeNumber rest
      match rest with
      | .plain '\x7d' :: rest => some (⟨low.getD 0, high⟩, rest)
      | _ => none
    | _ => none

/-- The bounds that a repetition mark stands for and what follows it. -/
def bounds? (c : Char) (rest : List Token) : Option (Bounds × List Token) :=
  match c with
  | '*' => some (⟨0, none⟩, rest)
  | '+' => some (⟨1, none⟩, rest)
  | '?' => some (⟨0, some 1⟩, rest)
  | '\x7b' => braceBounds? rest
  | _ => none

/-- The mark behind a repetition, which says how it chooses, and what follows. -/
def greedMark (rest : List Token) : Greed × List Token :=
  match rest with
  | .plain '?' :: rest => (.reluctant, rest)
  | .plain '+' :: rest => (.possessive, rest)
  | _ => (.greedy, rest)

/-! ### Groups and alternatives -/

/-- One piece of a sequence, with what a repetition behind it has to know. -/
inductive Piece where
  | item (r : Regex)
  | anchor (r : Regex)
  | repetition (r : Regex)

/-- The expression of a piece. -/
def Piece.regex : Piece → Regex
  | item r => r
  | anchor r => r
  | repetition r => r

/-- The piece `last` repeated. Anchors and repetitions cannot be. -/
def Piece.repeated (greed : Greed) (bounds : Bounds) (last : Option Piece) :
    Except ReadError Piece :=
  if !bounds.isAllowed then .error .tooManyRounds
  else
    match last with
    | none => .error .nothingToRepeat
    | some (anchor _) => .error .nothingToRepeat
    | some (repetition _) => .error .multipleRepeat
    | some (item r) =>
      if bounds.max.any (· < bounds.min) then .error .badBounds
      else .ok (repetition (loop greed bounds.min bounds.max r))

/-- The capture groups met so far. -/
structure Groups where
  /-- How many were opened. -/
  opened : Nat
  /-- Those that are closed again. -/
  closed : List Nat

/-- The back reference to a group, which must be closed. -/
def groupReference (groups : Groups) (index : Nat) : Except ReadError Piece :=
  if groups.opened < index then .error .missingGroup
  else if groups.closed.contains index then .ok (.item (backReference index))
  else .error .openGroup

/-- An escape that starts with a digit: three octal digits, or one or two digits of a group
number. -/
def numberEscape (groups : Groups) (c : Char) (rest : List Token) :
    Except ReadError (Piece × List Token) := do
  let first := c.toNat - '0'.toNat
  if first = 0 then
    let (digits, rest) := takeDigits 8 2 rest
    return (.item (char (← charOfCode (Digits.ofValues 8 digits))), rest)
  let (octal, afterOctal) := takeDigits 8 2 rest
  if first < 8 ∧ octal.length = 2 then
    let code := Digits.ofValues 8 (first :: octal)
    if 0o377 < code then throw .badEscape
    return (.item (char (← charOfCode code)), afterOctal)
  let (second, rest) := takeDigits 10 1 rest
  return (← groupReference groups (Digits.ofValues 10 (first :: second)), rest)

/-- An escape outside sets. -/
def escape (groups : Groups) (c : Char) (rest : List Token) :
    Except ReadError (Piece × List Token) := do
  match setEscape? c with
  | some entry => return (.item (chars ⟨false, [entry]⟩), rest)
  | none =>
    if c = 'A' then return (.anchor atStart, rest)
    else if c = 'Z' then return (.anchor atVeryEnd, rest)
    else if c = 'b' then return (.anchor (wordEdge false), rest)
    else if c = 'B' then return (.anchor (wordEdge true), rest)
    else if c.isDigit then numberEscape groups c rest
    else
      let (found, rest) ← charEscape c rest
      return (.item (char found), rest)

/-- Whether a character is skipped where blanks do not count. -/
def isFiller (c : Char) : Bool :=
  c == ' ' || c == '\t' || c == '\n' || c == '\r' || c == '\x0B' || c == '\x0C'

/-- What follows a comment. -/
def skipComment : List Token → List Token
  | [] => []
  | .plain '\n' :: rest => rest
  | _ :: rest => skipComment rest

/-- The kinds of group. -/
inductive GroupKind where
  | capturing
  | plain
  | spaced
  | ahead (negated : Bool)

/-- The kind of a group and what follows its opening. -/
def groupKind (rest : List Token) : Except ReadError (GroupKind × List Token) :=
  match rest with
  | .plain '?' :: .plain ':' :: rest => .ok (.plain, rest)
  | .plain '?' :: .plain 'x' :: .plain ':' :: rest => .ok (.spaced, rest)
  | .plain '?' :: .plain '=' :: rest => .ok (.ahead false, rest)
  | .plain '?' :: .plain '!' :: rest => .ok (.ahead true, rest)
  | .plain '?' :: _ => .error .unknownGroup
  | rest => .ok (.capturing, rest)

/-- The sequence of the pieces, given last piece first. -/
def sequence (pieces : List Piece) : Regex :=
  concat (pieces.reverse.map Piece.regex)

mutual

/-- Reads alternatives up to a closing parenthesis or the end. In `spaced` text blanks and comments
do not count. -/
def alternatives : Nat → Bool → Groups → List Token →
    Except ReadError (Regex × Groups × List Token)
  | 0, _, _, _ => .error .unterminatedGroup
  | fuel + 1, spaced, groups, rest => do
    let (first, groups, rest) ← pieces fuel spaced groups [] rest
    match rest with
    | .plain '|' :: rest =>
      let (second, groups, rest) ← alternatives fuel spaced groups rest
      return (alt first second, groups, rest)
    | rest => return (first, groups, rest)

/-- Reads a sequence up to a bar, a closing parenthesis or the end. `done` holds the pieces read so
far, last piece first. -/
def pieces : Nat → Bool → Groups → List Piece → List Token →
    Except ReadError (Regex × Groups × List Token)
  | 0, _, _, _, _ => .error .unterminatedGroup
  | _ + 1, _, groups, done, [] => .ok (sequence done, groups, [])
  | fuel + 1, spaced, groups, done, .escaped c :: rest => do
    let (piece, rest) ← escape groups c rest
    pieces fuel spaced groups (piece :: done) rest
  | fuel + 1, spaced, groups, done, .plain c :: rest => do
    if c = '|' || c = ')' then return (sequence done, groups, .plain c :: rest)
    else if spaced && isFiller c then pieces fuel spaced groups done rest
    else if spaced && c = '#' then pieces fuel spaced groups done (skipComment rest)
    else if c = '[' then
      let (set, rest) ← charSet rest
      pieces fuel spaced groups (.item (chars set) :: done) rest
    else if c = '.' then pieces fuel spaced groups (.item anyChar :: done) rest
    else if c = '^' then pieces fuel spaced groups (.anchor atStart :: done) rest
    else if c = '$' then pieces fuel spaced groups (.anchor atEnd :: done) rest
    else if c = '(' then
      let (piece, groups, rest) ← group fuel spaced groups rest
      pieces fuel spaced groups (piece :: done) rest
    else
      match bounds? c rest with
      | some (bounds, rest) =>
        let (greed, rest) := greedMark rest
        let piece ← Piece.repeated greed bounds done.head?
        pieces fuel spaced groups (piece :: done.tail) rest
      | none => pieces fuel spaced groups (.item (char c) :: done) rest

/-- Reads a group behind its opening parenthesis. -/
def group : Nat → Bool → Groups → List Token →
    Except ReadError (Piece × Groups × List Token)
  | 0, _, _, _ => .error .unterminatedGroup
  | fuel + 1, spaced, groups, rest => do
    let (kind, rest) ← groupKind rest
    let index := groups.opened + 1
    let inside : Groups :=
      match kind with
      | .capturing => ⟨index, groups.closed⟩
      | _ => groups
    let innerSpaced :=
      match kind with
      | .spaced => true
      | _ => spaced
    let (body, groups, rest) ← alternatives fuel innerSpaced inside rest
    let .plain ')' :: rest := rest | throw .unterminatedGroup
    match kind with
    | .capturing =>
      return (.item (capture index body), ⟨groups.opened, index :: groups.closed⟩, rest)
    | .ahead negated => return (.item (lookahead negated body), groups, rest)
    | _ => return (.item body, groups, rest)

end

/-- Reads a regular expression, with the number of its capture groups. -/
def read (source : List Char) : Except ReadError (Regex × Nat) := do
  let all ← tokens source
  let (regex, groups, rest) ← alternatives (3 * all.length + 3) false ⟨0, []⟩ all
  match rest with
  | [] => return (regex, groups.opened)
  | _ => throw .unbalancedGroup

end ScriptForms.Regex

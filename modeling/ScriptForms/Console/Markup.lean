/-!
# Markup in messages

A message to the user may hold tags in brackets, such as `[path]` and `[/path]`, which style the
text and do not show. A tag starts with a small letter, a number sign, a slash or an at sign and
holds no opening bracket. Backslashes before a tag escape it: two stand for one, and an odd one
makes the tag show as text. A text that may hold brackets of its own is escaped before it goes into
a message.
-/

namespace ScriptForms.Markup

/-- A piece of a message. -/
inductive Piece where
  /-- Characters that are no tag. -/
  | plain (cs : List Char)
  /-- A tag with the number of backslashes before it. -/
  | tag (backslashes : Nat) (content : List Char)
  deriving DecidableEq, Repr

/-- Whether a tag may start with the character. -/
def startsTag (c : Char) : Bool :=
  ('a' ≤ c && c ≤ 'z') || c == '#' || c == '/' || c == '@'

/-- The content of the tag whose opening bracket stands before `cs`, up to its closing bracket. -/
def tag? (cs : List Char) : Option (List Char) :=
  let content := cs.takeWhile fun c ↦ c != '[' && c != ']'
  if cs.head?.any startsTag ∧ cs[content.length]? = some ']' then some content else none

/-- The piece for characters that were read, last one first, if there are any. -/
def plainPiece (done : List Char) : List Piece :=
  if done.isEmpty then [] else [.plain done.reverse]

/-- The pieces of a message that goes on after characters that were read, last one first, and the
given number of backslashes. The first `skip` characters belong to a tag that was read. -/
def piecesFrom : Nat → List Char → Nat → List Char → List Piece
  | _, done, backslashes, [] => plainPiece (List.replicate backslashes '\\' ++ done)
  | skip + 1, done, backslashes, _ :: rest => piecesFrom skip done backslashes rest
  | 0, done, backslashes, c :: rest =>
    if c = '\\' then piecesFrom 0 done (backslashes + 1) rest
    else
      match if c = '[' then tag? rest else none with
      | some content =>
        plainPiece done ++ .tag backslashes content :: piecesFrom (content.length + 1) [] 0 rest
      | none => piecesFrom 0 (c :: (List.replicate backslashes '\\' ++ done)) 0 rest

/-- The pieces of a message. -/
def pieces (cs : List Char) : List Piece :=
  piecesFrom 0 [] 0 cs

/-- A tag with its brackets. -/
def bracketed (content : List Char) : List Char :=
  '[' :: (content ++ [']'])

/-! ### Escaping -/

/-- A piece with its tag escaped. -/
def Piece.escape : Piece → List Char
  | plain cs => cs
  | tag backslashes content => List.replicate (2 * backslashes + 1) '\\' ++ bracketed content

/-- A message in which a text shows as it is. A lone backslash at the end is doubled. -/
def escape (text : String) : String :=
  let cs := (pieces text.toList).flatMap Piece.escape
  let trailing := (cs.reverse.takeWhile (· == '\\')).length
  String.ofList (if trailing = 1 then cs ++ ['\\'] else cs)

end ScriptForms.Markup

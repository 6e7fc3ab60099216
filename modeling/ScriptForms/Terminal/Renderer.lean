import ScriptForms.Console.Basic
import ScriptForms.Console.Markup
import ScriptForms.Terminal.Emoji
import ScriptForms.Terminal.Layout
import ScriptForms.Terminal.Literal
import ScriptForms.Terminal.Style

/-!
# Texts on a terminal

A renderer for a terminal. It lays out texts in columns, replaces emoji codes, and follows the tags
of messages. A tag that starts with a slash closes the latest open tag of the same style, or just
the latest if it names none; there must be such a tag. A tag that starts with an at sign is a
handler, whose parameters are read when it is closed.
-/

namespace ScriptForms.Terminal

open Markup (Piece bracketed pieces)

/-- A tag that is open: its style in normal form, and its parameters. -/
structure OpenTag where
  style : String
  parameters : List Char
  deriving DecidableEq, Repr

/-- The normal form of a style in a tag. -/
def styleOf (cs : List Char) : Except RenderError String :=
  (Style.normalForm cs).mapError fun _ ↦ .badNumber

/-- Closes an open tag: the parameters of a handler are read now. -/
def close (tag : OpenTag) : Except RenderError Unit :=
  if tag.style.toList.head? = some '@' ∧ tag.parameters ≠ [] ∧
      !Literal.isHandlerCall (Text.trim tag.parameters) then
    .error .badMarkup
  else .ok ()

/-- Applies a tag to those that are open, the latest first. -/
def apply (content : List Char) (tags : List OpenTag) : Except RenderError (List OpenTag) := do
  let name := content.takeWhile (· != '=')
  match name with
  | '/' :: closed =>
    if Text.trim closed = [] then
      match tags with
      | [] => throw .badMarkup
      | tag :: tags =>
        close tag
        return tags
    else
      let style ← styleOf (Text.trim closed)
      match tags.find? (·.style == style) with
      | none => throw .badMarkup
      | some tag =>
        close tag
        return tags.eraseP (·.style == style)
  | _ => return ⟨← styleOf name, content.drop (name.length + 1)⟩ :: tags

/-- Characters in which a backslash before an opening bracket does not show. -/
def openBrackets : List Char → List Char
  | '\\' :: '[' :: rest => '[' :: openBrackets rest
  | c :: rest => c :: openBrackets rest
  | [] => []

/-- Shows pieces while the given tags are open. -/
def renderPieces (tags : List OpenTag) : List Piece → Except RenderError (List Char)
  | [] => .ok []
  | .plain cs :: rest => do
    let shown ← renderPieces tags rest
    return Emoji.replace (openBrackets cs) ++ shown
  | .tag backslashes content :: rest => do
    let (tag, tags) ←
      if backslashes % 2 = 1 then pure (Emoji.replace (bracketed content), tags)
      else pure ([], ← apply content tags)
    let shown ← renderPieces tags rest
    return List.replicate (backslashes / 2) '\\' ++ tag ++ shown

/-- What shows of a message. -/
def render (text : String) : Except RenderError (List Char) :=
  renderPieces [] (pieces text.toList)

/-! ### Lines -/

/-- The number of columns. -/
def width : Nat :=
  300

/-- The lines of a printed text. Emoji codes are replaced, but tags show as they are. -/
def printedLines (text : String) : List String :=
  (Layout.linesOf width (Emoji.replace text.toList)).map String.ofList

/-- `text` with blanks behind it up to eight columns. -/
def padLevel (text : String) : String :=
  text ++ String.ofList (List.replicate (8 - text.length) ' ')

/-- What shows of the message of a record. -/
def messageText (record : LogRecord) : Except RenderError (List Char) :=
  if record.markup then render record.message else .ok record.message.toList

/-- Lines in a column to the right of a level. -/
def besideLevel (level : List Char) : List (List Char) → List (List Char)
  | [] => [level]
  | first :: rest =>
    (level ++ ' ' :: first) :: rest.map fun line ↦ List.replicate (level.length + 1) ' ' ++ line

/-- The lines of a log record: the level and the message beside it. -/
def recordLines (record : LogRecord) : Except RenderError (List String) := do
  let message ← messageText record
  let level := (padLevel record.level.name).toList
  let lines := Layout.linesOf (width - (level.length + 1)) message
  return (besideLevel level lines).map fun line ↦ String.ofList (Layout.dropTrailingBlanks line)

/-- The renderer of a terminal. -/
def renderer : Renderer where
  width := width
  printedLines := printedLines
  recordLines := recordLines

end ScriptForms.Terminal

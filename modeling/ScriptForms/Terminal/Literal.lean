import ScriptForms.Text.WordChar

/-!
# Literals in handlers

A handler in a tag is called with literals: numbers, quoted texts, the words `True`, `False` and
`None`, and literals in parentheses, brackets and braces, with commas between them. The parameters
of a handler are a name with points, a name with literals in parentheses behind it, or one literal.
-/

namespace ScriptForms.Terminal.Literal

/-- What follows a literal, if one stands at the front. -/
abbrev Rest := Option (List Char)

/-- `cs` without the blanks at its front. -/
def skipBlanks (cs : List Char) : List Char :=
  cs.dropWhile fun c ↦ c == ' ' || c == '\t' || c == '\n' || c == '\x0C'

/-- What follows a quoted text, behind its opening quote. -/
def quoted (quote : Char) : List Char → Rest
  | [] => none
  | '\\' :: _ :: rest => quoted quote rest
  | c :: rest => if c = quote then some rest else if c = '\n' then none else quoted quote rest

/-- What follows digits, of which there must be one. An underscore may stand between two. -/
def digits : List Char → Rest
  | [] => none
  | [c] => if c.isDigit then some [] else none
  | [c, next] => if c.isDigit then if next.isDigit then some [] else some [next] else none
  | c :: next :: third :: rest =>
    if !c.isDigit then none
    else if next.isDigit then digits (next :: third :: rest)
    else if next = '_' ∧ third.isDigit then digits (third :: rest)
    else some (next :: third :: rest)

/-- What follows an exponent, if there is one. -/
def exponent (cs : List Char) : List Char :=
  match cs with
  | e :: rest =>
    if e = 'e' ∨ e = 'E' then
      let unsigned := if rest.head?.any fun c ↦ c == '+' || c == '-' then rest.drop 1 else rest
      (digits unsigned).getD cs
    else cs
  | [] => []

/-- What follows a fraction, if there is one. -/
def fraction (cs : List Char) : List Char :=
  match cs with
  | '.' :: rest => (digits rest).getD rest
  | _ => cs

/-- What follows a number. Only zero starts with a zero, unless a fraction or an exponent
follows. -/
def number (cs : List Char) : Rest :=
  match digits cs with
  | some rest =>
    let after := exponent (fraction rest)
    let whole := cs.take (cs.length - rest.length)
    if whole.head? = some '0' ∧ whole.any (fun c ↦ c != '0' && c != '_') ∧
        after.length = rest.length then none
    else if after.head?.any Text.isWordChar then none
    else some after
  | none =>
    match cs with
    | '.' :: rest => (digits rest).map exponent
    | _ => none

/-- What follows one of the words that are literals. -/
def word (cs : List Char) : Rest :=
  let found := String.ofList (cs.takeWhile Text.isWordChar)
  if found = "True" ∨ found = "False" ∨ found = "None" then some (cs.drop found.length) else none

/-- The bracket that closes an opening one. -/
def closing? : Char → Option Char
  | '(' => some ')'
  | '[' => some ']'
  | '\x7b' => some '\x7d'
  | _ => none

mutual

/-- What follows a literal. -/
def literal : Nat → List Char → Rest
  | 0, _ => none
  | fuel + 1, cs =>
    match skipBlanks cs with
    | [] => none
    | c :: rest =>
      if c = '\x22' ∨ c = '\x27' then quoted c rest
      else if c = '+' ∨ c = '-' then number (skipBlanks rest)
      else
        match closing? c with
        | some close => items fuel close (skipBlanks rest)
        | none => (number (c :: rest)).or (word (c :: rest))

/-- What follows literals with commas between them, and the bracket that closes them. In braces, a
literal may have a colon and another literal behind it. -/
def items : Nat → Char → List Char → Rest
  | 0, _, _ => none
  | fuel + 1, close, cs =>
    if cs.head? = some close then some (cs.drop 1)
    else do
      let rest := skipBlanks (← literal fuel cs)
      let rest ←
        match rest with
        | ':' :: rest => if close = '\x7d' then (literal fuel rest).map skipBlanks else none
        | _ => some rest
      match rest with
      | ',' :: rest => items fuel close (skipBlanks rest)
      | c :: rest => if c = close then some rest else none
      | [] => none

end

/-- Whether a text is one literal. -/
def isLiteral (cs : List Char) : Bool :=
  (literal (2 * cs.length + 1) cs).any fun rest ↦ (skipBlanks rest).isEmpty

/-- Whether a trimmed text is the parameters of a handler. -/
def isHandlerCall (cs : List Char) : Bool :=
  let arguments := cs.dropWhile fun c ↦ Text.isWordChar c || c == '.'
  arguments.isEmpty ||
    (if arguments.head? == some '(' && arguments.getLast? == some ')' &&
        !arguments.contains '\n' then
      isLiteral arguments
    else isLiteral cs)

end ScriptForms.Terminal.Literal

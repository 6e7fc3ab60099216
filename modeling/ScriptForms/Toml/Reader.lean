import ScriptForms.Toml.Number

/-!
# Reading TOML

A reader for settings files: comments, headers of tables and of arrays of tables, keys that may be
dotted or quoted, and values. A table may be opened by a header once, and a key may be given once. A
table that dotted keys have made cannot be opened by a later header, and nothing can be added to an
array or a table that was written as a value.
-/

namespace ScriptForms.Toml

/-! ### Keys -/

/-- Whether a character may stand in a key without quotes. -/
def isBareKeyChar (c : Char) : Bool :=
  c.isAlphanum || c == '-' || c == '_'

/-- One part of a key. -/
def keyPart (cs : List Char) : Parsed String :=
  match cs with
  | '\x22' :: rest =>
    (basicString (rest.length + 1) rest).map fun (text, rest) ↦ (String.ofList text, rest)
  | '\x27' :: rest => (literalString rest).map fun (text, rest) ↦ (String.ofList text, rest)
  | _ =>
    let bare := cs.takeWhile isBareKeyChar
    if bare.isEmpty then .error .invalidKey
    else .ok (String.ofList bare, cs.dropWhile isBareKeyChar)

/-- A key, whose parts are separated by points, on an amount of fuel that bounds its parts. -/
def key : Nat → List Char → Except ReadError (List String × List Char)
  | 0, _ => .error .invalidKey
  | fuel + 1, cs => do
    let (part, rest) ← keyPart cs
    match skipBlanks rest with
    | '.' :: rest =>
      let (parts, rest) ← key fuel (skipBlanks rest)
      return (part :: parts, rest)
    | rest => return ([part], rest)

/-! ### Comments -/

/-- Skips a comment up to the end of its line, if there is one. -/
def skipComment : List Char → Except ReadError (List Char)
  | '#' :: rest =>
    if (rest.takeWhile (· != '\n')).any isIllegal then .error .illegalCharacter
    else .ok (rest.dropWhile (· != '\n'))
  | cs => .ok cs

/-- Skips blanks, line ends and comments, at first the rest of a comment if `inComment` is set. -/
def skipFillers : Bool → List Char → Except ReadError (List Char)
  | _, [] => .ok []
  | true, c :: rest =>
    if c = '\n' then skipFillers false rest
    else if isIllegal c then .error .illegalCharacter
    else skipFillers true rest
  | false, c :: rest =>
    if isLineBlank c || c == '\n' then skipFillers false rest
    else if c = '#' then skipFillers true rest
    else .ok (c :: rest)

/-- Skips blanks, line ends and comments. -/
def skipToItem (cs : List Char) : Except ReadError (List Char) :=
  skipFillers false cs

/-! ### Values -/

/-- A value that holds no other values. -/
def scalar (cs : List Char) : Parsed Value :=
  match text? cs with
  | some found => found.map fun (text, rest) ↦ (.text (String.ofList text), rest)
  | none =>
    match cs with
    | 't' :: 'r' :: 'u' :: 'e' :: rest => .ok (.boolean true, rest)
    | 'f' :: 'a' :: 'l' :: 's' :: 'e' :: rest => .ok (.boolean false, rest)
    | _ =>
      match moment? cs with
      | some (found, rest) =>
        if found.date.all Date.isReal then .ok (.moment found, rest) else .error .impossibleDate
      | none => number cs

/-- A table that is written as a value, so far. -/
structure InlineTable where
  entries : Entries
  /-- The keys whose values hold other values, to which nothing can be added. -/
  fixed : List (List String)

/-- Adds a key with its value. -/
def InlineTable.add (table : InlineTable) (path : List String) (value : Value) :
    Except ReadError InlineTable := do
  if table.fixed.any (·.isPrefixOf path) then throw .closedTable
  let entries ← updateAt false (addEntry (path.getLastD "") value) path.dropLast table.entries
  return ⟨entries, if value.isContainer then table.fixed ++ [path] else table.fixed⟩

mutual

/-- A value, on an amount of fuel that is the number of characters. -/
def value : Nat → List Char → Except ReadError (Value × List Char)
  | 0, _ => .error .invalidValue
  | fuel + 1, cs =>
    match cs with
    | '[' :: rest => do
      match ← skipToItem rest with
      | ']' :: rest => return (.array [], rest)
      | rest =>
        let (items, rest) ← arrayItems fuel rest
        return (.array items, rest)
    | '\x7b' :: rest =>
      match skipBlanks rest with
      | '\x7d' :: rest => .ok (.table [], rest)
      | rest => (tableEntries fuel ⟨[], []⟩ rest).map fun (entries, rest) ↦ (.table entries, rest)
    | _ => scalar cs

/-- The items of an array, up to its closing bracket. -/
def arrayItems : Nat → List Char → Except ReadError (List Value × List Char)
  | 0, _ => .error .unclosedArray
  | fuel + 1, cs => do
    let (item, rest) ← value fuel cs
    match ← skipToItem rest with
    | ']' :: rest => return ([item], rest)
    | ',' :: rest =>
      match ← skipToItem rest with
      | ']' :: rest => return ([item], rest)
      | rest =>
        let (items, rest) ← arrayItems fuel rest
        return (item :: items, rest)
    | _ => throw .unclosedArray

/-- The entries of a table that is written as a value, up to its closing brace. -/
def tableEntries : Nat → InlineTable → List Char → Except ReadError (Entries × List Char)
  | 0, _, _ => .error .unclosedTable
  | fuel + 1, table, cs => do
    let (path, rest) ← key (cs.length + 1) cs
    let '=' :: rest := rest | throw .expectedEquals
    let (found, rest) ← value fuel (skipBlanks rest)
    let table ← table.add path found
    match skipBlanks rest with
    | '\x7d' :: rest => return (table.entries, rest)
    | ',' :: rest => tableEntries fuel table (skipBlanks rest)
    | _ => throw .unclosedTable

end

/-! ### Statements -/

/-- A document that is being read. -/
structure Document where
  entries : Entries
  /-- The table that keys go to. -/
  header : List String
  /-- The tables that no later header may open. -/
  closed : List (List String)
  /-- The arrays and tables that were written as values, to which nothing can be added. -/
  fixed : List (List String)
  /-- The tables that dotted keys have made since the last header. -/
  dotted : List (List String)

namespace Document

/-- The document before anything was read. -/
def empty : Document :=
  ⟨[], [], [], [], []⟩

/-- Whether a path leads into an array or table that was written as a value. -/
def isFixed (document : Document) (path : List String) : Bool :=
  document.fixed.any (·.isPrefixOf path)

/-- The tables below a header that a dotted key goes through. -/
def dottedTables (header path : List String) : List (List String) :=
  (List.range' 1 (path.length - 1)).map fun count ↦ header ++ path.take count

/-- Adds a key with its value. -/
def assign (document : Document) (path : List String) (value : Value) :
    Except ReadError Document := do
  let tables := dottedTables document.header path
  let parent := document.header ++ path.dropLast
  if tables.any document.closed.contains || document.isFixed parent then throw .closedTable
  let entries ← updateAt true (addEntry (path.getLastD "") value) parent document.entries
  let fixed :=
    if value.isContainer then document.fixed ++ [document.header ++ path] else document.fixed
  return { document with entries := entries, fixed := fixed, dotted := document.dotted ++ tables }

/-- Opens a table. -/
def openTable (document : Document) (path : List String) : Except ReadError Document := do
  let closed := document.closed ++ document.dotted
  if closed.contains path || document.isFixed path then throw .repeatedHeader
  let entries ← updateAt true .ok path document.entries
  return ⟨entries, path, closed ++ [path], document.fixed, []⟩

/-- Opens a new table at the end of an array of tables. What was said about the tables inside the
one before it does not hold for it. -/
def openItem (document : Document) (path : List String) : Except ReadError Document := do
  if document.isFixed path then throw .closedTable
  let outside (other : List String) := !path.isPrefixOf other
  let closed := (document.closed ++ document.dotted).filter outside
  let entries ← updateAt true (addTable (path.getLastD "")) path.dropLast document.entries
  return ⟨entries, path, closed ++ [path], document.fixed.filter outside, []⟩

end Document

/-- Reads what ends a statement: blanks, a comment, and a line feed or the end. -/
def lineEnd (cs : List Char) : Except ReadError (List Char) := do
  match ← skipComment (skipBlanks cs) with
  | [] => return []
  | '\n' :: rest => return rest
  | _ => throw .expectedLineEnd

/-- Reads one statement: nothing, a header, or a key with its value. -/
def statement (document : Document) (cs : List Char) :
    Except ReadError (Document × List Char) := do
  match cs with
  | [] => return (document, [])
  | '[' :: '[' :: rest =>
    let (path, rest) ← key (rest.length + 1) (skipBlanks rest)
    let document ← document.openItem path
    let ']' :: ']' :: rest := rest | throw .unclosedHeader
    return (document, rest)
  | '[' :: rest =>
    let (path, rest) ← key (rest.length + 1) (skipBlanks rest)
    let document ← document.openTable path
    let ']' :: rest := rest | throw .unclosedHeader
    return (document, rest)
  | c :: _ =>
    if c = '\n' ∨ c = '#' then return (document, cs)
    else if isBareKeyChar c ∨ c = '\x22' ∨ c = '\x27' then
      let (path, rest) ← key (cs.length + 1) cs
      let '=' :: rest := rest | throw .expectedEquals
      let (found, rest) ← value (rest.length + 1) (skipBlanks rest)
      return (← document.assign path found, rest)
    else throw .invalidStatement

/-- Reads statements to the end, behind `skip` characters of a statement that was read. -/
def statements : Nat → Document → List Char → Except ReadError Document
  | _, document, [] => .ok document
  | skip + 1, document, _ :: cs => statements skip document cs
  | 0, document, c :: cs => do
    let (document, rest) ← statement document (skipBlanks (c :: cs))
    let rest ← lineEnd rest
    statements (cs.length - rest.length) document cs

/-- A text with a line feed for every CR and LF in sequence. -/
def joinLineEnds : List Char → List Char
  | '\r' :: '\n' :: rest => '\n' :: joinLineEnds rest
  | c :: rest => c :: joinLineEnds rest
  | [] => []

/-- Reads a document and gives the entries of its root table. -/
def read (text : List Char) : Except ReadError Entries :=
  let cs := joinLineEnds text
  (statements 0 .empty cs).map (·.entries)

end ScriptForms.Toml

import ScriptForms.Terminal.Colour
import ScriptForms.Text.Blank

/-!
# Styles

A style is written as a sequence of words: attributes such as `bold`, some of which have short
forms, an attribute behind `not`, a colour, a colour behind `on`, and an address behind `link`.
Words that say the same have the same normal form: the attributes in a fixed order, then the colours
and the address. A text that is no style is its own normal form, trimmed and in lower case.
-/

namespace ScriptForms.Terminal

/-- The attributes of a style, in the order of the normal form. -/
inductive Attribute where
  | bold
  | dim
  | italic
  | underline
  | blink
  | blink2
  | reverse
  | conceal
  | strike
  | underline2
  | frame
  | encircle
  | overline
  deriving DecidableEq, Repr

namespace Attribute

/-- The attributes with their names. -/
def all : List (Attribute × String) :=
  [(bold, "bold"), (dim, "dim"), (italic, "italic"), (underline, "underline"), (blink, "blink"),
   (blink2, "blink2"), (reverse, "reverse"), (conceal, "conceal"), (strike, "strike"),
   (underline2, "underline2"), (frame, "frame"), (encircle, "encircle"), (overline, "overline")]

/-- The short forms of names. -/
def short : List (String × Attribute) :=
  [("d", dim), ("b", bold), ("i", italic), ("u", underline), ("r", reverse), ("c", conceal),
   ("s", strike), ("uu", underline2), ("o", overline)]

/-- The attribute that a word names. -/
def ofWord? (word : String) : Option Attribute :=
  ((all.find? (·.2 == word)).map (·.1)).or (short.lookup word)

end Attribute

/-- A style. -/
structure Style where
  /-- The attributes that are set or unset, the latest first. -/
  attributes : List (Attribute × Bool)
  colour : Option String
  background : Option String
  link : Option String
  deriving DecidableEq, Repr

namespace Style

/-- The style that changes nothing. -/
def plain : Style :=
  ⟨[], none, none, none⟩

/-- The normal form of a style. -/
def display (style : Style) : String :=
  let attributes := Attribute.all.filterMap fun (kind, name) ↦
    (style.attributes.lookup kind).map fun set ↦ if set then name else "not " ++ name
  let parts := attributes ++ style.colour.toList ++ style.background.toList.map ("on " ++ ·) ++
    style.link.toList.map ("link " ++ ·)
  if parts.isEmpty then "none" else " ".intercalate parts

/-- Reads the words of a style, from those that were read before. -/
def readWords (style : Style) : List (List Char) → Except StyleError Style
  | [] => .ok style
  | word :: rest =>
    let name := String.ofList (Text.toLower word)
    if name = "on" then
      match rest with
      | [] => .error .unknown
      | colour :: rest =>
        match Colour.read colour with
        | .ok colour => readWords { style with background := some colour } rest
        | .error e => .error e
    else if name = "not" then
      match rest with
      | [] => .error .unknown
      | word :: rest =>
        match Attribute.ofWord? (String.ofList word) with
        | some kind =>
          readWords { style with attributes := (kind, false) :: style.attributes } rest
        | none => .error .unknown
    else if name = "link" then
      match rest with
      | [] => .error .unknown
      | address :: rest => readWords { style with link := some (String.ofList address) } rest
    else
      match Attribute.ofWord? name with
      | some kind =>
        readWords { style with attributes := (kind, true) :: style.attributes } rest
      | none =>
        match Colour.read word with
        | .ok colour => readWords { style with colour := some colour } rest
        | .error e => .error e

/-- The words of a text. -/
def wordsOf (cs : List Char) : List (List Char) :=
  (cs.splitOnP Text.isBlank).filter (!·.isEmpty)

/-- The normal form of a text as a style. It fails only on a colour that lacks a number. -/
def normalForm (cs : List Char) : Except StyleError String :=
  if Text.trim cs = "none".toList then .ok plain.display
  else
    match readWords plain (wordsOf cs) with
    | .ok style => .ok style.display
    | .error .unknown => .ok (String.ofList (Text.toLower (Text.trim cs)))
    | .error .missingNumber => .error .missingNumber

end Style

end ScriptForms.Terminal

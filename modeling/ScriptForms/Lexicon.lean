import ScriptForms.Pattern.Basic
import ScriptForms.Pattern.Named

/-!
# The lexicon

The patterns of the tokens of YAMLScript expressions and of the keys that introduce definitions,
with the questions that are asked of them.
-/

namespace ScriptForms

namespace Lexicon

/-- The templates of the lexicon. Each may refer to those above it. -/
def definitions : List (String × String) := [
  -- A character literal: a backslash with a name or one character.
  ("char", r"(?x:
      \\
      (?:
        newline |
        space |
        tab |
        formfeed |
        backspace |
        return |
        .
      )
    )"),
  -- A comment up to the end of its line.
  ("comm", r";.*(?:\n|\Z)"),
  -- What stands between tokens.
  ("ignr", r"(?x:
      (?:
        \#!.*\n? |                  # hashbang line
        [\s,]+ |                    # whitespace, commas
        ;.*\n? |                    # comments
                                    # empty
      )
    )"),
  -- A whole number.
  ("inum", r"-?\d+"),
  -- A number with a point.
  ("fnum", r"$inum\.\d*(?:e$inum)?"),
  -- A number.
  ("xnum", r"(?:$fnum|$inum)"),
  -- The match operator.
  ("xsym", r"(?:\=\~)"),
  -- An operator.
  ("osym", "(?:[-+*/%<=>~|&.]\x7b1,3\x7d)"),
  -- The opening of an anonymous function.
  ("anon", r"(?:\\\()"),
  -- A numbered argument.
  ("narg", r"(?:%\d+)"),
  -- A regular expression.
  ("regx", r"(?x:
      / (?=\S)                      # opening slash
      (?:
        \\. |                       # escaped char
        [^\\/\n]                    # any other char
      )+/                           # ending slash
    )"),
  -- A string in double quotes.
  ("dstr", r#"(?x:
      "(?:
        \\. |                       # escaped char
        [^\\"]                      # any other char
      )*"
    )"#),
  -- A string in single quotes.
  ("sstr", r"(?x:
      '(?:
        '' |                        # escaped single quote
        [^']                        # any other char
      )*'
    )"),
  -- A number without a sign.
  ("pnum", r"(?:\d+)"),
  -- A letter or digit.
  ("anum", r"[a-zA-Z0-9]"),
  -- A word.
  ("symw", r"(?:$anum+(?:-$anum+)*)"),
  -- A key in a path.
  ("pkey", r"(?:$symw|$pnum|$dstr|$sstr)"),
  -- A path of keys.
  ("path", r"(?:$symw(?:\.$pkey)+)"),
  -- A keyword.
  ("keyw", r"(?:\:$symw)"),
  -- A symbol of the target language.
  ("csym", r"(?:[-a-zA-Z0-9_*+?!<=>]+(?:\.(?=\ ))?)"),
  -- A symbol.
  ("ysym", r"(?:$symw[?!.]?)"),
  -- A symbol with a default value.
  ("dsym", r"(?:$symw=)"),
  -- A namespace.
  ("nspc", r"(?:$symw(?:\:\:$symw)+)"),
  -- A symbol with its namespace.
  ("fsym", r"(?:(?:$nspc|$symw)\/$ysym)"),
  -- A symbol that is called.
  ("psym", r"(?:(?:$fsym|$ysym)\()"),
  -- A symbol in asterisks.
  ("esym", r"(?:\*$symw\*)"),
  -- The key of a definition.
  ("defk", r"^($symw) +=$"),
  -- The key of a function definition.
  ("dfnk", r"^defn ($ysym)(?:\((.*)\))?$"),
  -- Balanced parentheses, at most six deep.
  ("bpar", r"(?x:
      \(
        [^)(]*(?:\(
          [^)(]*(?:\(
            [^)(]*(?:\(
              [^)(]*(?:\(
                [^)(]*(?:\(
                  [^)(]*
                \)[^)(]*)*
              \)[^)(]*)*
            \)[^)(]*)*
          \)[^)(]*)*
        \)[^)(]*)*
      \)
    )")]

end Lexicon

/-- The table of the lexicon. -/
def lexicon : NamedPatterns Pattern :=
  (NamedPatterns.ofDefinitions Pattern.compile?
    (Lexicon.definitions.map fun (name, template) ↦ (name, template.toList))).toOption.getD .empty

namespace Lexicon

/-- Whether a text is exactly one token of the named pattern. -/
def isToken (name : String) (text : List Char) : Except PatternError Bool :=
  (lexicon.get name).map fun pattern ↦ (pattern.fullMatch? text).isSome

/-- The match of the named pattern at the beginning of a line. -/
def lineMatch? (name : String) (line : List Char) : Option Match :=
  (lexicon.get? name).bind (·.match? line)

/-- The name in a key of the form `name =`. -/
def definitionKey? (line : List Char) : Option (List Char) :=
  (lineMatch? "defk" line).bind fun found ↦ (found.groups[0]?).join

/-- The name and the parameter text, if there is one, in a key of the form `defn name(params)`. -/
def functionKey? (line : List Char) : Option (List Char × Option (List Char)) :=
  (lineMatch? "dfnk" line).bind fun found ↦
    (found.groups[0]?).join.map fun name ↦ (name, (found.groups[1]?).join)

end Lexicon

end ScriptForms

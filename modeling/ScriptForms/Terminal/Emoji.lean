import ScriptForms.Terminal.EmojiNames
import ScriptForms.Text.Blank
import ScriptForms.Text.LowerCase

/-!
# Emoji codes

An emoji may be written by its name between two colons, as in `:heart:`, in any case. Behind the
name, `-emoji` and `-text` ask for a coloured or a plain form. Codes are looked for from left to
right: what stands between a colon and the next one is a code if it holds no blank, and the two
colons of a code are used up even if it names nothing, in which case it stays as it is.
-/

namespace ScriptForms.Terminal.Emoji

/-- The name in a code without its suffix, and the selector that the suffix stands for. -/
def splitSuffix (code : List Char) : List Char × List Char :=
  if "-emoji".toList.isSuffixOf code then (code.take (code.length - 6), ['\uFE0F'])
  else if "-text".toList.isSuffixOf code then (code.take (code.length - 5), ['\uFE0E'])
  else (code, [])

/-- The characters that a code stands for, if its name is known. -/
def expand? (code : List Char) : Option (List Char) :=
  let (name, suffix) := splitSuffix code
  (names.lookup (String.ofList (Text.toLower name))).map fun emoji ↦ emoji.toList ++ suffix

/-- Replaces the codes in a text, on an amount of fuel that is its length. -/
def replaceWithin : Nat → List Char → List Char
  | 0, cs => cs
  | _ + 1, [] => []
  | fuel + 1, ':' :: rest =>
    let code := rest.takeWhile (· != ':')
    match rest.drop code.length with
    | [] => ':' :: rest
    | _ :: after =>
      if code.any Text.isBlank then ':' :: replaceWithin fuel rest
      else (expand? code).getD (':' :: (code ++ [':'])) ++ replaceWithin fuel after
  | fuel + 1, c :: rest => c :: replaceWithin fuel rest

/-- Replaces the codes in a text. -/
def replace (cs : List Char) : List Char :=
  replaceWithin cs.length cs

end ScriptForms.Terminal.Emoji

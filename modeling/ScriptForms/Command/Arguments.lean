import ScriptForms.Text.DecimalDigit
import ScriptForms.Text.Quoted

/-!
# Command line arguments

The rules by which words on a command line become options and positional arguments. A command has
options and one positional argument.

* A word is an option if it starts with a hyphen and is not just that, unless it looks like a
  negative number or holds a blank and no option starts like it. The words behind `--` are no
  options.
* An option may be shortened as long as no other one starts the same way. Its argument stands behind
  an equals sign or in the words that follow; a separator behind an equals sign is dropped. Short
  options without arguments may be written in one word.
* Words that fit nowhere are left over.
-/

namespace ScriptForms.Command

/-- How many words an option takes. -/
inductive OptionArity where
  | flag
  | one
  | many
  deriving DecidableEq, Repr

/-- What an option is for. -/
inductive OptionRole where
  | setting
  | help
  | version
  deriving DecidableEq, Repr

/-- An option with all its spellings. -/
structure OptionSpec where
  names : List String
  arity : OptionArity
  role : OptionRole
  deriving DecidableEq, Repr

/-- The name of an option in messages. -/
def OptionSpec.display (spec : OptionSpec) : String :=
  "/".intercalate spec.names

/-- How many words a positional argument takes. -/
inductive PositionalArity where
  | one
  | optional
  /-- One of the given words, and everything behind it. -/
  | command (choices : List String)
  deriving DecidableEq, Repr

/-- A command: its name, its options and its positional argument. -/
structure CommandSpec where
  program : String
  options : List OptionSpec
  positionalName : String
  positionalArity : PositionalArity
  deriving DecidableEq, Repr

/-- What ends the reading of arguments early. -/
inductive Stop where
  | help
  | version
  /-- A mistake, with the name of the command that reports it. -/
  | mistake (program message : String)
  deriving DecidableEq, Repr

/-- The last line of the report of a mistake. -/
def mistakeLine (program message : String) : String :=
  program ++ ": error: " ++ message

/-! ### Which words are options -/

/-- A word read as an option: the option, if it is known, the spelling, and the argument in the
word. -/
structure OptionUse where
  spec : Option OptionSpec
  spelling : String
  argument : Option String
  deriving DecidableEq, Repr

/-- A word with its reading. -/
inductive Word where
  | option (word : String) (use : OptionUse)
  | plain (word : String)
  /-- The word `--`, the first time. -/
  | separator
  deriving DecidableEq, Repr

/-- The word as it was written. -/
def Word.text : Word → String
  | option word _ => word
  | plain word => word
  | separator => "--"

/-- Whether a word was read as an option. -/
def Word.isOption : Word → Bool
  | option _ _ => true
  | _ => false

/-- Whether a word was read as a plain one. -/
def Word.isPlain : Word → Bool
  | plain _ => true
  | _ => false

/-- Whether `text` starts with `front`. -/
def startsWith (front text : String) : Bool :=
  front.toList.isPrefixOf text.toList

/-- A word cut at its first equals sign, if it has one. -/
def splitAtEquals (word : String) : String × Option String :=
  let cs := word.toList
  let front := cs.takeWhile (· != '=')
  match cs.drop front.length with
  | _ :: argument => (String.ofList front, some (String.ofList argument))
  | [] => (word, none)

/-- All spellings of options, with their options. -/
def CommandSpec.spellings (spec : CommandSpec) : List (String × OptionSpec) :=
  spec.options.flatMap fun option ↦ option.names.map (·, option)

/-- The option with exactly this spelling. -/
def CommandSpec.option? (spec : CommandSpec) (spelling : String) : Option OptionSpec :=
  spec.spellings.lookup spelling

/-- The readings of a word as a shortened option or as short options in one word. -/
def CommandSpec.abbreviations (spec : CommandSpec) (word : String) : List OptionUse :=
  match word.toList with
  | '-' :: '-' :: _ =>
    let (front, argument) := splitAtEquals word
    (spec.spellings.filter fun (spelling, _) ↦ startsWith front spelling).map
      fun (spelling, option) ↦ ⟨some option, spelling, argument⟩
  | hyphen :: letter :: rest =>
    spec.spellings.filterMap fun (spelling, option) ↦
      if spelling.toList = [hyphen, letter] then
        some ⟨some option, spelling, some (String.ofList rest)⟩
      else if startsWith word spelling then some ⟨some option, spelling, none⟩
      else none
  | _ => []

/-- Whether a word looks like a negative number. A line feed may end it. -/
def looksNegative (word : String) : Bool :=
  match word.toList with
  | '-' :: rest =>
    let rest := if rest.getLast? = some '\n' then rest.dropLast else rest
    let whole := rest.takeWhile Text.isDecimalDigit
    match rest.drop whole.length with
    | [] => !whole.isEmpty
    | '.' :: fraction => !fraction.isEmpty && fraction.all Text.isDecimalDigit
    | _ => false
  | _ => false

/-- Reads a word as an option, if it is one. -/
def CommandSpec.optionUse? (spec : CommandSpec) (word : String) :
    Except Stop (Option OptionUse) :=
  if word.toList.head? ≠ some '-' then .ok none
  else
    match spec.option? word with
    | some option => .ok (some ⟨some option, word, none⟩)
    | none =>
      if word.length = 1 then .ok none
      else
        let (front, argument) := splitAtEquals word
        match argument.bind fun _ ↦ spec.option? front with
        | some option => .ok (some ⟨some option, front, argument⟩)
        | none =>
          match spec.abbreviations word with
          | [use] => .ok (some use)
          | [] =>
            if looksNegative word || word.toList.contains ' ' then .ok none
            else .ok (some ⟨none, word, none⟩)
          | uses =>
            .error (.mistake spec.program ("ambiguous option: " ++ word ++ " could match " ++
              ", ".intercalate (uses.map (·.spelling))))

/-- Reads all words. -/
def CommandSpec.readWords (spec : CommandSpec) : List String → Except Stop (List Word)
  | [] => .ok []
  | word :: rest =>
    if word = "--" then .ok (.separator :: rest.map .plain)
    else do
      let use ← spec.optionUse? word
      let words ← spec.readWords rest
      match use with
      | some use => return .option word use :: words
      | none => return .plain word :: words

/-! ### Taking arguments -/

/-- The arguments taken so far. -/
structure Arguments where
  /-- The options in order, by their first spelling, with their arguments. -/
  options : List (String × List String)
  /-- The words of the positional argument, once it was taken. -/
  positional : Option (List String)
  /-- The words that fit nowhere. -/
  leftOver : List String
  deriving DecidableEq, Repr

/-- A mistake in the use of an option. -/
def optionMistake {α : Type} (spec : CommandSpec) (option : OptionSpec) (message : String) :
    Except Stop α :=
  .error (.mistake spec.program ("argument " ++ option.display ++ ": " ++ message))

/-- The words without the first separator among them. -/
def dropSeparator (words : List String) : List String :=
  words.erase "--"

/-- Options with their arguments, and the words left. -/
abbrev Taken := List (OptionSpec × List String) × List Word

/-- An option whose arguments are the words behind it. -/
def takeWords (spec : CommandSpec) (option : OptionSpec) (words : List Word) :
    Except Stop Taken :=
  match option.arity with
  | .flag => .ok ([(option, [])], words)
  | .one =>
    match words with
    | .plain word :: words => .ok ([(option, [word])], words)
    | _ => optionMistake spec option "expected one argument"
  | .many =>
    let taken := words.takeWhile Word.isPlain
    .ok ([(option, taken.map Word.text)], words.drop taken.length)

/-- The mistake of an argument for an option that takes none. -/
def ignoredArgument (spec : CommandSpec) (option : OptionSpec) (argument : List Char) :
    Except Stop Taken :=
  optionMistake spec option ("ignored explicit argument " ++ Text.quoted (String.ofList argument))

/-- An option with an argument in its own word. For a short option that takes none, the argument is
the letters of more short options. -/
def takeArgument (spec : CommandSpec) (option : OptionSpec) (spelling : String)
    (words : List Word) : List Char → Except Stop Taken
  | [] =>
    if option.arity = .flag then ignoredArgument spec option [] else .ok ([(option, [""])], words)
  | letter :: rest =>
    if option.arity = .flag then
      let next := String.ofList ['-', letter]
      match spec.option? next with
      | none => ignoredArgument spec option (letter :: rest)
      | some nextOption =>
        if startsWith "--" spelling then ignoredArgument spec option (letter :: rest)
        else
          let more :=
            if rest = [] then takeWords spec nextOption words
            else takeArgument spec nextOption next words rest
          more.map fun (uses, words) ↦ ((option, []) :: uses, words)
    else .ok ([(option, dropSeparator [String.ofList (letter :: rest)])], words)

/-- An option with its arguments. -/
def takeOption (spec : CommandSpec) (option : OptionSpec) (use : OptionUse) (words : List Word) :
    Except Stop Taken :=
  match use.argument with
  | some argument => takeArgument spec option use.spelling words argument.toList
  | none => takeWords spec option words

/-- Enters options with their arguments; help and version end everything. -/
def enterOptions (arguments : Arguments) :
    List (OptionSpec × List String) → Except Stop Arguments
  | [] => .ok arguments
  | (option, values) :: rest =>
    match option.role with
    | .help => .error .help
    | .version => .error .version
    | .setting =>
      enterOptions
        { arguments with options := arguments.options ++ [(option.names.headD "", values)] } rest

/-- How many words the positional argument takes, if it can be taken here. -/
def positionalCount (arity : PositionalArity) (words : List Word) : Option Nat :=
  let separators (words : List Word) := (words.takeWhile (· == .separator)).length
  let front := separators words
  match arity, (words.drop front).head?.any Word.isPlain with
  | .one, true => some (front + 1 + separators (words.drop (front + 1)))
  | .one, false => none
  | .optional, true => some (front + 1 + separators (words.drop (front + 1)))
  | .optional, false => some front
  | .command _, true => some words.length
  | .command _, false => none

/-- Enters the words of the positional argument. -/
def enterPositional (spec : CommandSpec) (arguments : Arguments) (words : List String) :
    Except Stop Arguments :=
  match spec.positionalArity with
  | .command choices =>
    let word := words.headD ""
    if choices.contains word then .ok { arguments with positional := some words }
    else
      .error (.mistake spec.program ("argument " ++ spec.positionalName ++ ": invalid choice: " ++
        Text.quoted word ++ " (choose from " ++ ", ".intercalate (choices.map Text.quoted) ++ ")"))
  | _ => .ok { arguments with positional := some (dropSeparator words) }

/-- Takes the positional argument at the front of the words, if it is still to be taken and can
be. -/
def takePositional (spec : CommandSpec) (arguments : Arguments) (words : List Word) :
    Except Stop (Arguments × List Word) :=
  if arguments.positional.isSome then .ok (arguments, words)
  else
    match positionalCount spec.positionalArity words with
    | none => .ok (arguments, words)
    | some count => do
      let arguments ← enterPositional spec arguments ((words.take count).map Word.text)
      return (arguments, words.drop count)

/-- Adds words that fit nowhere. -/
def Arguments.leave (arguments : Arguments) (words : List String) : Arguments :=
  { arguments with leftOver := arguments.leftOver ++ words }

/-- Takes the option at the front of the words. -/
def takeFront (spec : CommandSpec) (arguments : Arguments) (word : String) (use : OptionUse)
    (words : List Word) : Except Stop (Arguments × List Word) :=
  match use.spec with
  | none => .ok (arguments.leave [word], words)
  | some option => do
    let (uses, words) ← takeOption spec option use words
    return (← enterOptions arguments uses, words)

/-- Takes all words, on an amount of fuel that is their number. -/
def takeAll (spec : CommandSpec) : Nat → Arguments → List Word → Except Stop Arguments
  | 0, arguments, words => .ok (arguments.leave (words.map Word.text))
  | fuel + 1, arguments, words =>
    if words.any Word.isOption then
      match words with
      | .option word use :: words => do
        let (arguments, words) ← takeFront spec arguments word use words
        takeAll spec fuel arguments words
      | words => do
        let (arguments, rest) ← takePositional spec arguments words
        if rest.length < words.length then takeAll spec fuel arguments rest
        else
          let skipped := words.takeWhile (!·.isOption)
          takeAll spec fuel (arguments.leave (skipped.map Word.text)) (words.drop skipped.length)
    else do
      let (arguments, rest) ← takePositional spec arguments words
      return arguments.leave (rest.map Word.text)

/-- Reads the arguments of a command. -/
def CommandSpec.read (spec : CommandSpec) (words : List String) : Except Stop Arguments := do
  let words ← spec.readWords words
  let arguments ← takeAll spec (words.length + 1) ⟨[], none, []⟩ words
  if arguments.positional.isNone ∧ spec.positionalArity ≠ .optional then
    throw (.mistake spec.program
      ("the following arguments are required: " ++ spec.positionalName))
  return arguments

/-- The arguments of the last use of an option. -/
def Arguments.last? (arguments : Arguments) (name : String) : Option (List String) :=
  arguments.options.reverse.lookup name

end ScriptForms.Command

import ScriptForms.Command.Arguments
import ScriptForms.Path.Basic

/-!
# Invocations

What the words of a command line ask for: to compile a document, to show or try the patterns of the
lexicon, or to show the library search path.
-/

namespace ScriptForms.Command

/-- The name of the program. -/
def programName : String :=
  "ysclj"

/-- The version of the program. -/
def version : String :=
  "0.1.0"

/-- The argument of an option that takes one. It may have been written and then dropped, as the
separator in `--style=--` is. -/
inductive Argument where
  | word (text : String)
  | dropped
  deriving DecidableEq, Repr

/-- The word of an argument, if it has one. -/
def Argument.word? : Argument → Option String
  | word text => some text
  | dropped => none

/-- What to compile and how. -/
structure CompileRequest where
  input : Path
  output : Option Path
  noFormat : Bool
  style : Option Argument
  overrides : List String
  deriving DecidableEq, Repr

/-- What a command line asks for. -/
inductive Request where
  | compile (request : CompileRequest)
  | grammar (name : Option String) (text : Option Argument)
  | searchPath (document : Option Path)
  deriving DecidableEq, Repr

/-- A request, and whether details are to be logged. -/
structure Invocation where
  verbose : Bool
  request : Request
  deriving DecidableEq, Repr

/-- The option that every command has. -/
def helpOption : OptionSpec :=
  ⟨["-h", "--help"], .flag, .help⟩

/-- The program itself, whose positional argument is a command with its words. -/
def mainSpec : CommandSpec where
  program := programName
  options := [helpOption, ⟨["--version"], .flag, .version⟩, ⟨["-v", "--verbose"], .flag, .setting⟩]
  positionalName := "command"
  positionalArity := .command ["compile", "grammar", "yspath"]

/-- The command that compiles. -/
def compileSpec : CommandSpec where
  program := programName ++ " compile"
  options := [helpOption, ⟨["--out"], .one, .setting⟩, ⟨["--no-format"], .flag, .setting⟩,
    ⟨["--style"], .one, .setting⟩, ⟨["--config"], .many, .setting⟩]
  positionalName := "path"
  positionalArity := .one

/-- The command that shows and tries patterns. -/
def grammarSpec : CommandSpec where
  program := programName ++ " grammar"
  options := [helpOption, ⟨["--match"], .one, .setting⟩]
  positionalName := "name"
  positionalArity := .optional

/-- The command that shows the search path. -/
def searchPathSpec : CommandSpec where
  program := programName ++ " yspath"
  options := [helpOption]
  positionalName := "document"
  positionalArity := .optional

/-- The argument of the last use of an option that takes one. -/
def Arguments.argument? (arguments : Arguments) (name : String) : Option Argument :=
  (arguments.last? name).map fun
    | [] => .dropped
    | word :: _ => .word word

/-- The one word of the positional argument. -/
def Arguments.word? (arguments : Arguments) : Option String :=
  arguments.positional.bind List.head?

/-- Reads the words of a command, and gives the request with the words left over. -/
def readRequest (command : String) (words : List String) :
    Except Stop (Request × List String) := do
  if command = "compile" then
    let arguments ← compileSpec.read words
    let request : CompileRequest :=
      { input := .ofText (arguments.word?.getD "")
        output := ((arguments.argument? "--out").bind Argument.word?).map .ofText
        noFormat := (arguments.last? "--no-format").isSome
        style := arguments.argument? "--style"
        overrides := (arguments.last? "--config").getD [] }
    return (.compile request, arguments.leftOver)
  else if command = "grammar" then
    let arguments ← grammarSpec.read words
    return (.grammar arguments.word? (arguments.argument? "--match"), arguments.leftOver)
  else
    let arguments ← searchPathSpec.read words
    return (.searchPath (arguments.word?.map .ofText), arguments.leftOver)

/-- Reads a command line. Words left over by the program or by its command are a mistake. -/
def Invocation.read (words : List String) : Except Stop Invocation := do
  let arguments ← mainSpec.read words
  let command := arguments.positional.getD []
  let (request, leftOver) ← readRequest (command.headD "") command.tail
  let leftOver := arguments.leftOver ++ leftOver
  if leftOver ≠ [] then
    throw (.mistake programName ("unrecognized arguments: " ++ " ".intercalate leftOver))
  return ⟨(arguments.last? "-v").isSome, request⟩

end ScriptForms.Command

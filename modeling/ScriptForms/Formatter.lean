import ScriptForms.Config.Basic
import ScriptForms.Log

/-!
# Formatters

A program's text is laid out by an external tool, or passed on as it is. The tool is known by what
it does: where its executable is found, and what a run of it comes to. A run may give an exit code
and an output, or nothing at all, be it that the tool does not start, that the system does not hand
over the argument or the input, or that the output is not text. That is no error that formatting
knows of, and it is passed on to whoever asked. Formatting records which questions were put to the
tool and what was logged.
-/

namespace ScriptForms

/-- What a run of a tool gives. -/
structure ToolRun where
  exitCode : Int
  output : String
  errors : String
  deriving DecidableEq, Repr

/-- Why there is no run of a tool, or nothing that it gives. -/
inductive ToolFault where
  /-- The system does not start the executable. -/
  | notStarted
  /-- The argument holds a null character. -/
  | nullCharacter
  /-- The input holds a surrogate, so that there are no bytes to hand over. -/
  | unencodable
  /-- The bytes that the tool has written are not UTF-8. -/
  | undecodable
  deriving DecidableEq, Repr

/-- An external tool, by its behaviour. -/
structure Tool where
  /-- The executable for a command, if it is found. -/
  locate : String → Option String
  /-- What comes of a run of an executable on an argument and an input, with all that the system
  does to start it and to pass the texts on. -/
  run : String → String → String → Except ToolFault ToolRun

/-- What is raised where a tool is used: an error that the program knows of, or a fault of the
tool's run. -/
inductive Raised (ε : Type) where
  | error (cause : ε)
  | fault (cause : ToolFault)
  deriving DecidableEq, Repr

/-- A question put to a tool. -/
inductive ToolCall where
  /-- Where is the executable for this command? -/
  | locate (command : String)
  /-- What does the executable give for this argument and input? -/
  | run (executable argument input : String)
  deriving DecidableEq, Repr

/-- Why formatting fails. -/
inductive FormatError where
  | notFound (command : String)
  | failed (exitCode : Int) (errors : String)
  deriving DecidableEq, Repr

/-- The wording of an error. -/
def FormatError.message : FormatError → String
  | notFound command => "Formatter executable not found: '" ++ command ++ "'"
  | failed exitCode errors =>
    "zprint failed (exit " ++ toString exitCode ++ "): " ++
      String.ofList (Text.trim errors.toList)

/-- Who lays out a program. -/
inductive Formatter where
  /-- Nobody: the text is passed on. -/
  | identity
  /-- A command, with a style. -/
  | zprint (style command : String)
  deriving DecidableEq, Repr

/-- The result of formatting, with what happened on the way. -/
structure Formatting where
  result : Except (Raised FormatError) String
  calls : List ToolCall
  log : List LogRecord

namespace Formatter

/-- The formatter that a configuration asks for. -/
def ofConfig (config : Config) : Formatter :=
  match config.formatter with
  | .none => identity
  | .zprint => zprint config.style config.command

/-- The options handed to the command: the style, and that the input is a whole program. -/
def options (style : String) : String :=
  "\x7b:style :" ++ style ++ " :parse-string-all? true\x7d"

/-- The options of a formatter that has some. -/
def options? : Formatter → Option String
  | identity => none
  | zprint style _ => some (options style)

/-- The text that a run has laid out. -/
def laidOut : Except ToolFault ToolRun → Except (Raised FormatError) String
  | .error fault => .error (.fault fault)
  | .ok run =>
    if run.exitCode = 0 then .ok run.output
    else .error (.error (.failed run.exitCode run.errors))

/-- Lays out a program. -/
def format (tool : Tool) (code : String) : Formatter → Formatting
  | identity => ⟨.ok code, [], []⟩
  | zprint style command =>
    match tool.locate command with
    | none => ⟨.error (.error (.notFound command)), [.locate command], []⟩
    | some executable =>
      ⟨laidOut (tool.run executable (options style) code),
        [.locate command, .run executable (options style) code],
        [.plain .debug ("Running " ++ executable ++ " " ++ options style)]⟩

end Formatter

end ScriptForms

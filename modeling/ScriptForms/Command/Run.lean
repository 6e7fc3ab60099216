import ScriptForms.Command.Invocation
import ScriptForms.Compile
import ScriptForms.Config.Load
import ScriptForms.Console.Basic
import ScriptForms.Console.Markup
import ScriptForms.Json.Reader
import ScriptForms.Lexicon
import ScriptForms.Path.Search

/-!
# Running commands

What a run of the program does to the world: the exit code, the text on standard output, the log,
what is printed on the console, the files, and the questions put to the formatter. The world is a
value that is handed in, and the changed files are handed out, so that a run is a function.
-/

namespace ScriptForms.Command

/-- What a run of the program may look at. -/
structure World where
  files : FileSystem
  /-- The value of the search path variable, if it is set. -/
  searchVariable : Option String
  tool : Tool
  renderer : Renderer

/-- Something printed on the console. -/
inductive Printed where
  | text (text : String)
  | table (title : String) (columns : List String) (rows : List (List String))
  deriving DecidableEq, Repr

/-- An error that no command handles. -/
inductive Failure where
  /-- The configuration cannot be loaded. -/
  | config (cause : ConfigError)
  /-- A file cannot be looked for or written. -/
  | system (cause : SystemFailure)
  /-- There is no run of the formatter, or nothing that it gives. -/
  | tool (cause : ToolFault)
  /-- A whole number in the input has too many digits. -/
  | integerTooLong
  /-- There is no text to try a pattern on. -/
  | noText
  /-- A log record cannot be shown. -/
  | unshowable (cause : RenderError)
  deriving DecidableEq, Repr

/-- What a command does. -/
structure Effect where
  /-- The exit code, or an error that the command does not handle. -/
  result : Except Failure Nat
  /-- The text on standard output, by its code points. -/
  stdout : String
  log : List LogRecord
  printed : List Printed
  files : FileSystem
  calls : List ToolCall

/-- A command that ends with an error message to the user. -/
def Effect.failed (files : FileSystem) (log : List LogRecord) (calls : List ToolCall)
    (messages : List String) : Effect where
  result := .ok 1
  stdout := ""
  log := log ++ messages.map (.styled .error)
  printed := []
  files := files
  calls := calls

/-- A command that ends with an error that it does not handle. -/
def Effect.escaped (files : FileSystem) (log : List LogRecord) (calls : List ToolCall)
    (failure : Failure) : Effect where
  result := .error failure
  stdout := ""
  log := log
  printed := []
  files := files
  calls := calls

/-! ### Compiling -/

/-- Why the input of a compilation cannot be used. -/
inductive InputError where
  /-- The file is there, but it cannot be read. -/
  | unreadable (cause : SystemFailure)
  | undecodable (cause : Text.Utf8Error)
  | malformed (text : String) (cause : Json.ReadError)

/-- The wording of an error in the input at `path`. -/
def InputError.message (path : Path) : InputError → String
  | unreadable cause => "Cannot read " ++ path.toText ++ ": " ++ SystemError.message ⟨cause, path⟩
  | undecodable cause => "Cannot read " ++ path.toText ++ ": " ++ cause.message
  | malformed text cause => "Invalid parse tree in " ++ path.toText ++ ": " ++ cause.message text

/-- The error in the input that the command does not handle. -/
def InputError.unhandled? : InputError → Option Failure
  | malformed _ cause => if cause.fault = .integerTooLong then some .integerTooLong else none
  | _ => none

/-- The tree in the contents of a file. -/
def readTree (bytes : List UInt8) : Except InputError Json := do
  let cs ← (Text.decodeUtf8 bytes).mapError .undecodable
  let text := String.ofList (Text.unifyNewlines cs)
  (Json.parse text).mapError (.malformed text)

/-- The tree in the input. A file that has vanished since it was looked for is not found. -/
def readInput (files : FileSystem) (path : Path) : Except InputError Json := do
  match ← (files.read? path).mapError .unreadable with
  | some bytes => readTree bytes
  | none => throw (.unreadable .notFound)

/-- The argument of an option as a raw setting. -/
def Argument.setting : Argument → Setting
  | word text => .text text
  | dropped => .other

/-- The configuration that a compilation asks for: settings are looked for from the directory of the
input upwards. -/
def CompileRequest.configRequest (request : CompileRequest) : ConfigRequest where
  explicit :=
    { formatter := if request.noFormat then some (.text FormatterChoice.none.name) else none
      style := request.style.map Argument.setting
      command := none }
  overrides := (readOverrides request.overrides).1
  start := request.input.parent

/-- The configuration of a compilation, with the log. -/
def CompileRequest.config (request : CompileRequest) (files : FileSystem) :
    Except ConfigError Config × List LogRecord :=
  Config.load files request.configRequest

/-- The text for standard output: it ends in a line feed. -/
def completeLine (code : String) : String :=
  if code.toList.getLast? = some '\n' then code else code ++ "\n"

/-- Writes a text to a file, after the directories that it needs. -/
def writeOutput (files : FileSystem) (path : Path) (code : String) : FileSystem.Change :=
  (files.makeDirectories path.parent).andThen (·.writeText path code.toList)

/-- Delivers the code of a compilation. -/
def deliver (files : FileSystem) (log : List LogRecord) (calls : List ToolCall)
    (output : Option Path) (outcome : Outcome) : Effect :=
  match output with
  | none =>
    if (Text.encode? (completeLine outcome.code).toList).isNone then
      .escaped files log calls (.system .unencodable)
    else
      { result := .ok 0, stdout := completeLine outcome.code, log := log, printed := []
        files := files, calls := calls }
  | some path =>
    let change := writeOutput files path outcome.code
    match change.error? with
    | some e =>
      if e.failure.isReported then
        .failed change.files log calls
          [Markup.escape ("Cannot write " ++ path.toText ++ ": " ++ e.message)]
      else .escaped change.files log calls (.system e.failure)
    | none =>
      { result := .ok 0
        stdout := ""
        log := log ++ [.styled .success ("Wrote " ++ toString outcome.formCount ++
          " forms to [path]" ++ path.toText ++ "[/path]")]
        printed := []
        files := change.files
        calls := calls }

/-- Compiles the tree in the input by a configuration. -/
def compileInput (world : World) (request : CompileRequest) (log : List LogRecord)
    (config : Config) : Effect :=
  match readInput world.files request.input with
  | .error e =>
    match e.unhandled? with
    | some failure => .escaped world.files log [] failure
    | none => .failed world.files log [] [Markup.escape (e.message request.input)]
  | .ok tree =>
    let report := CompileReport.ofTree world.tool config tree
    let log := log ++ report.log
    match report.outcome with
    | .error fault => .escaped world.files log report.calls (.tool fault)
    | .ok outcome =>
      if outcome.success then deliver world.files log report.calls request.output outcome
      else .failed world.files log report.calls (outcome.errors.map Markup.escape)

/-- Runs the command that compiles. -/
def runCompile (world : World) (request : CompileRequest) : Effect :=
  let warnings := (readOverrides request.overrides).2
  match world.files.isFile request.input with
  | .error failure => .escaped world.files warnings [] (.system failure)
  | .ok false =>
    .failed world.files warnings []
      ["Input not found: [path]" ++ request.input.toText ++ "[/path]"]
  | .ok true =>
    let (config, configLog) := request.config world.files
    let log := warnings ++ configLog
    match config with
    | .error (.invalid errors) =>
      .failed world.files log []
        [Markup.escape ("Invalid configuration: " ++ configErrorHeadline errors)]
    | .error e => .escaped world.files log [] (.config e)
    | .ok config => compileInput world request log config

/-! ### Patterns and search path -/

/-- A command that only talks to the user. -/
def Effect.told (files : FileSystem) (code : Nat) (log : List LogRecord)
    (printed : List Printed) : Effect where
  result := .ok code
  stdout := ""
  log := log
  printed := printed
  files := files
  calls := []

/-- The table of all patterns of the lexicon. -/
def lexiconTable : Printed :=
  .table "YAMLScript Lexical Patterns" ["Name", "Expanded source"]
    (lexicon.sources.map fun (name, source) ↦ [name, String.ofList source])

/-- The text of a captured group in a message. -/
def displayGroup : Option (List Char) → String
  | some cs => Text.quoted (String.ofList cs)
  | none => "None"

/-- Runs the command that shows and tries patterns. -/
def runGrammar (world : World) (name : Option String) (text : Option Argument) : Effect :=
  match name with
  | none => .told world.files 0 [] [lexiconTable]
  | some name =>
    match lexicon.get name with
    | .error e => .told world.files 1 [.styled .error (Markup.escape e.message)] []
    | .ok pattern =>
      match text with
      | none => .told world.files 0 [] [.text (String.ofList pattern.source)]
      | some .dropped => .escaped world.files [] [] .noText
      | some (.word text) =>
        match pattern.fullMatch? text.toList with
        | none =>
          .told world.files 1
            [.styled .warning (Markup.escape
              ("'" ++ name ++ "' does not match " ++ Text.quoted text))] []
        | some found =>
          let groups := ", ".intercalate (found.groups.map displayGroup)
          .told world.files 0
            [.styled .success (Markup.escape ("'" ++ name ++ "' matches " ++ Text.quoted text ++
              (if groups = "" then "" else " groups: " ++ groups)))] []

/-- Runs the command that shows the search path. -/
def runSearchPath (world : World) (document : Option Path) : Effect :=
  let cwd := (Path.toText ⟨1, world.files.workingDirectory⟩).toList
  match Path.searchPath cwd (world.searchVariable.map String.toList)
    (document.map (·.toText.toList)) with
  | .error e => .failed world.files [] [] [Markup.escape e.message]
  | .ok entries =>
    { result := .ok 0
      stdout := String.join (entries.map fun entry ↦ String.ofList entry ++ "\n")
      log := []
      printed := []
      files := world.files
      calls := [] }

/-- Runs a request. -/
def Request.run (world : World) : Request → Effect
  | compile request => runCompile world request
  | grammar name text => runGrammar world name text
  | searchPath document => runSearchPath world document

/-! ### The program -/

/-- How a run ends. -/
inductive Ending where
  /-- The program returns an exit code to its caller. -/
  | returned (code : Nat)
  /-- The program ends the process, with the last line that it wrote to standard error. -/
  | exited (code : Nat) (lastLine : String)
  /-- An error that nobody handles. -/
  | escaped (cause : Failure)
  deriving DecidableEq, Repr

/-- What a run of the program does. -/
structure Run where
  ending : Ending
  stdout : String
  /-- The records that reach the threshold of the log. -/
  log : List LogRecord
  printed : List Printed
  /-- The threshold of the log at the end. -/
  threshold : Level
  files : FileSystem
  calls : List ToolCall

/-- A run that ends before a command was started. -/
def Run.stopped (world : World) (code : Nat) (stdout lastLine : String) : Run where
  ending := .exited code lastLine
  stdout := stdout
  log := []
  printed := []
  threshold := .info
  files := world.files
  calls := []

/-- The last line of a text, blanks at its end aside. -/
def lastLine (text : String) : String :=
  let cs := Text.trimRight text.toList
  String.ofList (cs.reverse.takeWhile (!Text.isLineBreak ·)).reverse

/-- The run that an early stop makes. -/
def Stop.toRun (world : World) : Stop → Run
  | help => .stopped world 0 "" ""
  | version => .stopped world 0 (programName ++ " " ++ Command.version ++ "\n") ""
  | mistake program message => .stopped world 2 "" (lastLine (mistakeLine program message))

/-- The records of a log that can be shown, up to the first that cannot, and the error of that
one. -/
def shownRecords (renderer : Renderer) : List LogRecord → List LogRecord × Option RenderError
  | [] => ([], none)
  | record :: rest =>
    match renderer.recordLines record with
    | .error e => ([], some e)
    | .ok _ =>
      let (shown, failure) := shownRecords renderer rest
      (record :: shown, failure)

/-- How a command ends the run. A record that cannot be shown is an error that nobody handles. As a
process of its own the program always ends the process. -/
def Effect.ending (effect : Effect) (ownProcess : Bool) (unshowable : Option RenderError) :
    Ending :=
  match unshowable, effect.result with
  | some e, _ => .escaped (.unshowable e)
  | none, .error failure => .escaped failure
  | none, .ok code => if ownProcess then .exited code "" else .returned code

/-- Runs the program on the words of a command line. -/
def run (world : World) (ownProcess : Bool) (words : List String) : Run :=
  match Invocation.read words with
  | .error stop => stop.toRun world
  | .ok invocation =>
    let threshold := if invocation.verbose then Level.debug else Level.info
    let effect := invocation.request.run world
    let (log, unshowable) := shownRecords world.renderer (LogRecord.visible threshold effect.log)
    { ending := effect.ending ownProcess unshowable
      stdout := effect.stdout
      log := log
      printed := effect.printed
      threshold := threshold
      files := effect.files
      calls := effect.calls }

end ScriptForms.Command

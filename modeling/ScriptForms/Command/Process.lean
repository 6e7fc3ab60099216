import ScriptForms.Command.Run

/-!
# The command line program

Reads what a run may look at, runs the program as a function, and carries out what it gives: files
are written, texts go to standard output, and mistakes to standard error. Formatters are found and
started by a tool box that is handed in. The function only needs to know what they answer, and it
tells what it asks them. So it is run once to hear its questions, and again with the answers.
-/

namespace ScriptForms.Command

/-! ### Files -/

/-- What there is at a location of the real file system. -/
def probe (location : Location) : IO (Option FileEntry) := do
  let path := (← IO.currentDir) / Path.toText ⟨1, location⟩
  if ← path.isDir then return some .directory
  if !(← path.pathExists) then return none
  try
    return some (.file (← IO.FS.readBinFile path).toList)
  catch e => return some (.locked ⟨13, e.toString⟩)

/-- The locations that a request may look at. -/
def locationsOf (files : FileSystem) : Request → List Location
  | .compile request =>
    let input := files.resolve request.input
    let output := (request.output.map files.resolve).getD []
    let settings := (directoriesUp (files.resolve request.input.parent)).map
      (· ++ [settingsFileName])
    directoriesUp input ++ directoriesUp output ++ settings
  | _ => []

/-- The working directory, and what there is at the locations that a command line may look at. -/
def loadFiles (words : List String) : IO FileSystem := do
  let cwd := Path.ofText (← IO.currentDir).toString
  let files : FileSystem := ⟨cwd.names, []⟩
  match Invocation.read words with
  | .error _ => return files
  | .ok invocation =>
    let locations := (locationsOf files invocation.request).eraseDups
    let entries ← locations.filterMapM fun location ↦ do
      return (← probe location).map (location, ·)
    return ⟨cwd.names, entries⟩

/-- Creates the directories that a run has created, and writes the files that it has changed. -/
def storeFiles (before after : FileSystem) : IO Unit := do
  for (location, entry) in after.entries do
    if entry = .directory ∧ before.entryAt? location = none then
      IO.FS.createDirAll (Path.toText ⟨1, location⟩)
  for (location, bytes) in FileSystem.changedFiles before after do
    IO.FS.createDirAll (Path.toText ⟨1, location.dropLast⟩)
    IO.FS.writeBinFile (Path.toText ⟨1, location⟩) ⟨bytes.toArray⟩

/-! ### Formatters -/

/-- The means to find and to start a formatter. Its input and output are texts by their code
points. -/
structure ToolBox where
  locate : String → IO (Option String)
  run : String → String → String → IO (Except ToolFault ToolRun)

/-- The tool that gives the same answer to every question. -/
def answering (executable : Option String) (run : Except ToolFault ToolRun) : Tool :=
  ⟨fun _ ↦ executable, fun _ _ _ ↦ run⟩

/-- Runs the program, with the questions to a formatter answered by a tool box. A run asks for at
most one executable and one run of it. -/
def runWith (box : ToolBox) (world : Tool → World) (words : List String) : IO Run := do
  let silent : Except ToolFault ToolRun := .error .notStarted
  let run := Command.run (world (answering none silent)) true words
  match run.calls with
  | .locate command :: _ =>
    match ← box.locate command with
    | none => return run
    | some executable =>
      let run := Command.run (world (answering (some executable) silent)) true words
      match run.calls with
      | [_, .run executable argument input] =>
        let answer ← box.run executable argument input
        return Command.run (world (answering (some executable) answer)) true words
      | _ => return run
  | _ => return run

/-! ### The program -/

/-- The lines of something printed on the console. -/
def printedLines (renderer : Renderer) : Printed → List String
  | .text text => renderer.printedLines text
  | .table title columns rows => title :: (columns :: rows).map ("  ".intercalate ·)

/-- Runs the program on the words of the command line. -/
def program (box : ToolBox) (renderer : Renderer) (words : List String) : IO UInt32 := do
  let files ← loadFiles words
  let searchVariable ← IO.getEnv "YSPATH"
  let run ← runWith box (fun tool ↦ ⟨files, searchVariable, tool, renderer⟩) words
  storeFiles files run.files
  for record in run.log do
    match renderer.recordLines record with
    | .ok lines => lines.forM IO.println
    | .error _ => pure ()
  for item in run.printed do
    for line in printedLines renderer item do
      IO.println line
  let bytes := (Text.encode? run.stdout.toList).getD []
  (← IO.getStdout).write ⟨bytes.toArray⟩
  match run.ending with
  | .returned code => return code.toUInt32
  | .exited code line =>
    if line ≠ "" then IO.eprintln line
    return code.toUInt32
  | .escaped _ =>
    IO.eprintln "unexpected error"
    return 1

end ScriptForms.Command

import ScriptForms.Log

/-!
# Consoles

All output to the user goes to the active screen, which can be switched. Log records go to the
screens that handlers are attached to. Every change of the screen or of the threshold attaches one
handler anew, so there is always exactly one, and it follows the active screen. How texts and
records look on a screen is up to a renderer that is handed in.
-/

namespace ScriptForms

/-- Why a message cannot be shown. -/
inductive RenderError where
  /-- The tags of the message do not fit together. -/
  | badMarkup
  /-- A number in a tag cannot be read. -/
  | badNumber
  deriving DecidableEq, Repr

/-- How texts look on a screen. -/
structure Renderer where
  /-- The number of columns of a screen. -/
  width : Nat
  /-- The lines of a printed text. -/
  printedLines : String → List String
  /-- The lines of a log record. -/
  recordLines : LogRecord → Except RenderError (List String)

/-- A console: the active screen, the threshold of the log, and the screens of its handlers. -/
structure Console where
  active : String
  threshold : Level
  handlers : List String
  deriving DecidableEq, Repr

/-- A line on a screen. -/
structure ScreenLine where
  screen : String
  text : String
  deriving DecidableEq, Repr

namespace Console

/-- The name of the screen that is active in the beginning. -/
def defaultScreen : String :=
  "default"

/-- Attaches one handler to the active screen in place of those that are attached. -/
def attach (console : Console) : Console :=
  { console with handlers := [console.active] }

/-- The console in the beginning. -/
def initial : Console :=
  attach ⟨defaultScreen, .info, []⟩

/-- Switches to a screen. -/
def setScreen (console : Console) (screen : String) : Console :=
  attach { console with active := screen }

/-- Switches back to the default screen. -/
def reset (console : Console) : Console :=
  console.setScreen defaultScreen

/-- Sets the threshold of the log. -/
def setThreshold (console : Console) (threshold : Level) : Console :=
  attach { console with threshold := threshold }

/-! ### Output -/

/-- The lines that printing a text adds. -/
def print (renderer : Renderer) (console : Console) (text : String) : List ScreenLine :=
  (renderer.printedLines text).map (⟨console.active, ·⟩)

/-- The lines that a log record adds: none below the threshold, and one copy for each handler. -/
def log (renderer : Renderer) (console : Console) (record : LogRecord) :
    Except RenderError (List ScreenLine) :=
  if record.level.reaches console.threshold then
    (renderer.recordLines record).map fun lines ↦
      console.handlers.flatMap fun screen ↦ lines.map (⟨screen, ·⟩)
  else .ok []

end Console

end ScriptForms

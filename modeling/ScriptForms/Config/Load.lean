import ScriptForms.Config.Basic
import ScriptForms.Dictionary
import ScriptForms.FileSystem
import ScriptForms.Log
import ScriptForms.Text.Utf8
import ScriptForms.Toml.Reader

/-!
# Loading the configuration

The settings of a document come from explicit arguments, from `key=value` overrides, and from the
program's section of the settings file in the nearest directory at or above the document that has
one, in this order. If that file has no such section, no file further up is looked at.
-/

namespace ScriptForms

/-! ### The settings file -/

/-- Why the configuration cannot be loaded. -/
inductive ConfigError where
  /-- The system refuses to look for the settings file. -/
  | inaccessible (cause : SystemFailure)
  /-- Settings were refused. -/
  | invalid (errors : List SettingError)
  /-- The settings file is not UTF-8. -/
  | undecodable (cause : Text.Utf8Error)
  /-- The settings file is no TOML. -/
  | malformed (cause : Toml.ReadError)
  /-- The value `tool` is no table. -/
  | toolNotTable
  /-- The value of the program's section is no table. -/
  | sectionNotTable
  deriving DecidableEq, Repr

/-- The name of the settings file. -/
def settingsFileName : String :=
  "pyproject.toml"

/-- The name of the program's section, a table inside the table `tool`. -/
def settingsSectionName : String :=
  "ysclj"

/-- The contents of the settings file in a directory, if it is a file. -/
def settingsFileIn? (fs : FileSystem) (directory : Location) :
    Except SystemFailure (Option (List UInt8)) :=
  fs.read? ⟨1, directory ++ [settingsFileName]⟩

/-- A directory and those above it, the nearest first. -/
def directoriesUp (directory : Location) : List Location :=
  ((List.range (directory.length + 1)).map fun count ↦ directory.take count).reverse

/-- The nearest directory with a settings file, and the contents of the file. -/
def nearestSettingsFile? (fs : FileSystem) (start : Location) :
    Except SystemFailure (Option (Location × List UInt8)) :=
  (directoriesUp start).findSomeM? fun directory ↦
    (settingsFileIn? fs directory).map fun found ↦ found.map fun bytes ↦ (directory, bytes)

/-- The value of the section in a settings file, an empty table if there is none. -/
def settingsSection (bytes : List UInt8) : Except ConfigError Toml.Value := do
  let text ← (Text.decodeUtf8 bytes).mapError .undecodable
  let root ← (Toml.read text).mapError .malformed
  match (root.lookup "tool").getD (.table []) with
  | .table tool => return (tool.lookup settingsSectionName).getD (.table [])
  | _ => throw .toolNotTable

/-- The settings in a table of a settings file. -/
def Settings.ofTable (table : Toml.Entries) : Settings :=
  .ofEntries (table.map fun entry ↦ (entry.1, Setting.ofToml entry.2))

/-- The settings of a section, which must be a table. -/
def sectionSettings : Toml.Value → Except ConfigError Settings
  | .table entries => .ok (.ofTable entries)
  | _ => .error .sectionNotTable

/-- The log record of a settings file that is used. -/
def settingsFileRecord (directory : Location) : LogRecord :=
  .plain .debug ("Using [tool." ++ settingsSectionName ++ "] from " ++
    Path.toText ⟨1, directory ++ [settingsFileName]⟩)

/-- The settings of the nearest settings file, with the log. -/
def fileSettings (fs : FileSystem) (start : Path) :
    Except ConfigError Settings × List LogRecord :=
  if start.hasNull then (.error (.inaccessible .nullCharacter), [])
  else
    match nearestSettingsFile? fs (fs.resolve start) with
    | .error failure => (.error (.inaccessible failure), [])
    | .ok none => (.ok ⟨none, none, none⟩, [])
    | .ok (some (directory, bytes)) =>
      match settingsSection bytes with
      | .error e => (.error e, [])
      | .ok value => (sectionSettings value, [settingsFileRecord directory])

/-! ### All sources -/

/-- What a caller asks for. -/
structure ConfigRequest where
  /-- Explicit settings. -/
  explicit : Settings
  /-- Overrides by name. -/
  overrides : List (String × Setting)
  /-- Where the search for a settings file starts. -/
  start : Path

/-- Loads the configuration, with the log. -/
def Config.load (fs : FileSystem) (request : ConfigRequest) :
    Except ConfigError Config × List LogRecord :=
  let (fromFile, log) := fileSettings fs request.start
  let result := do
    let fromFile ← fromFile
    let settings := request.explicit.orElse ((Settings.ofEntries request.overrides).orElse fromFile)
    settings.check.mapError ConfigError.invalid
  (result, log)

/-! ### Overrides -/

/-- The value of an override: a truth value if it spells one, in any case, and otherwise the
text. -/
def overrideValue (text : List Char) : Setting :=
  if Text.toLower text = "true".toList then .flag true
  else if Text.toLower text = "false".toList then .flag false
  else .text (String.ofList text)

/-- The name and value in a text of the form `key=value`. -/
def override? (item : String) : Option (String × Setting) :=
  let cs := item.toList
  if cs.contains '=' then
    some (String.ofList (Text.trim (cs.takeWhile (· != '='))),
      overrideValue (Text.trim ((cs.dropWhile (· != '=')).drop 1)))
  else none

/-- The warning about a text that is no override. -/
def overrideWarning (item : String) : LogRecord :=
  .plain .warning ("Ignoring invalid config format: '" ++ item ++ "'. Expected 'key=value'.")

/-- The overrides in several texts, in order, with a warning for each text that is none. -/
def readOverrides (items : List String) : List (String × Setting) × List LogRecord :=
  (Dictionary.ofEntries (items.filterMap override?),
    (items.filter fun item ↦ (override? item).isNone).map overrideWarning)

end ScriptForms

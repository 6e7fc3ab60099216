import ScriptForms.Json.Basic
import ScriptForms.Text.Blank
import ScriptForms.Text.LowerCase
import ScriptForms.Toml.Basic

/-!
# Configuration

Three settings govern the program: the formatter, the style that it uses, and the command that runs
it. Raw settings come from several sources, of which the first that has a field decides it. The
settings are then checked, each on its own, and all offences are reported in the order of the
fields.
-/

namespace ScriptForms

/-- Who lays out the text. -/
inductive FormatterChoice where
  | zprint
  | none
  deriving DecidableEq, Repr

/-- The name of a kind of formatter. -/
def FormatterChoice.name : FormatterChoice → String
  | zprint => "zprint"
  | none => "none"

/-- The kind of formatter with the given name. -/
def FormatterChoice.ofName? : String → Option FormatterChoice
  | "zprint" => some zprint
  | "none" => some none
  | _ => Option.none

/-- Checked settings. -/
structure Config where
  formatter : FormatterChoice
  style : String
  command : String
  deriving DecidableEq, Repr

/-- The settings that hold if nothing else is said. -/
def Config.default : Config :=
  ⟨.zprint, "community", "zprint"⟩

/-- A raw setting. -/
inductive Setting where
  | text (text : String)
  | flag (value : Bool)
  /-- A value of any other kind. -/
  | other
  deriving DecidableEq, Repr

/-- A JSON value as a raw setting. -/
def Setting.ofJson : Json → Setting
  | .str content => text content
  | .bool value => flag value
  | _ => other

/-- A value of a settings file as a raw setting. -/
def Setting.ofToml : Toml.Value → Setting
  | .text content => text content
  | .boolean value => flag value
  | _ => other

/-- The raw settings of one source. -/
structure Settings where
  formatter : Option Setting
  style : Option Setting
  command : Option Setting
  deriving DecidableEq, Repr

namespace Settings

/-- The settings among named entries; other names do not matter. -/
def ofEntries (entries : List (String × Setting)) : Settings :=
  ⟨entries.lookup "formatter", entries.lookup "style", entries.lookup "zprint_command"⟩

/-- The settings of `first`, and of `second` where the first has none. -/
def orElse (first second : Settings) : Settings :=
  ⟨first.formatter.or second.formatter, first.style.or second.style,
    first.command.or second.command⟩

end Settings

/-! ### Checks -/

/-- What is wrong with a setting. -/
inductive SettingError where
  | unknownFormatter
  | styleNotText
  | emptyStyle
  | commandNotText
  deriving DecidableEq, Repr

namespace SettingError

/-- The field that an error belongs to. -/
def field : SettingError → String
  | unknownFormatter => "formatter"
  | styleNotText => "style"
  | emptyStyle => "style"
  | commandNotText => "zprint_command"

/-- The name of the kind of an error. -/
def kind : SettingError → String
  | unknownFormatter => "enum"
  | styleNotText => "string_type"
  | emptyStyle => "value_error"
  | commandNotText => "string_type"

/-- The wording of an error. -/
def message : SettingError → String
  | unknownFormatter => "Input should be 'zprint' or 'none'"
  | styleNotText => "Input should be a valid string"
  | emptyStyle => "Value error, Formatter style must not be empty"
  | commandNotText => "Input should be a valid string"

end SettingError

/-- The headline over the errors of a configuration. -/
def configErrorHeadline (errors : List SettingError) : String :=
  toString errors.length ++ " validation error" ++ (if errors.length = 1 then "" else "s") ++
    " for RuntimeConfig"

/-- The name of a style as it is kept: trimmed, without colons in front, in lower case. -/
def styleName (text : String) : List Char :=
  Text.toLower ((Text.trim text.toList).dropWhile (· == ':'))

/-- Checks the formatter. -/
def checkFormatter : Option Setting → Except SettingError FormatterChoice
  | none => .ok Config.default.formatter
  | some (.text name) =>
    match FormatterChoice.ofName? name with
    | some kind => .ok kind
    | none => .error .unknownFormatter
  | some _ => .error .unknownFormatter

/-- Checks the style. -/
def checkStyle : Option Setting → Except SettingError String
  | none => .ok Config.default.style
  | some (.text text) =>
    if styleName text = [] then .error .emptyStyle else .ok (String.ofList (styleName text))
  | some _ => .error .styleNotText

/-- Checks the command. -/
def checkCommand : Option Setting → Except SettingError String
  | none => .ok Config.default.command
  | some (.text text) => .ok text
  | some _ => .error .commandNotText

/-- The errors of a check. -/
def errorsOf {α : Type} : Except SettingError α → List SettingError
  | .ok _ => []
  | .error e => [e]

/-- Checks all settings. -/
def Settings.check (settings : Settings) : Except (List SettingError) Config :=
  match checkFormatter settings.formatter, checkStyle settings.style,
    checkCommand settings.command with
  | .ok formatter, .ok style, .ok command => .ok ⟨formatter, style, command⟩
  | formatter, style, command => .error (errorsOf formatter ++ errorsOf style ++ errorsOf command)

end ScriptForms

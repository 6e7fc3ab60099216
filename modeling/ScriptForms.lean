import ScriptForms.Command.Arguments
import ScriptForms.Command.Invocation
import ScriptForms.Command.Process
import ScriptForms.Command.Run
import ScriptForms.Compile
import ScriptForms.Config.Basic
import ScriptForms.Config.Load
import ScriptForms.Console.Basic
import ScriptForms.Console.Markup
import ScriptForms.Context
import ScriptForms.Dictionary
import ScriptForms.FileSystem
import ScriptForms.Formatter
import ScriptForms.Json.Basic
import ScriptForms.Json.Display
import ScriptForms.Json.Reader
import ScriptForms.Lexicon
import ScriptForms.Log
import ScriptForms.Lowering
import ScriptForms.Node.Basic
import ScriptForms.Node.Display
import ScriptForms.Node.Error
import ScriptForms.Node.Json
import ScriptForms.Node.Printer
import ScriptForms.Number.Binary64
import ScriptForms.Number.Digits
import ScriptForms.Number.Shortest
import ScriptForms.Path.Basic
import ScriptForms.Path.Lexical
import ScriptForms.Path.Search
import ScriptForms.Pattern.Basic
import ScriptForms.Pattern.Named
import ScriptForms.Pattern.Session
import ScriptForms.Program
import ScriptForms.Regex.Basic
import ScriptForms.Regex.Match
import ScriptForms.Regex.Reader
import ScriptForms.Terminal.Colour
import ScriptForms.Terminal.Columns
import ScriptForms.Terminal.Emoji
import ScriptForms.Terminal.EmojiNames
import ScriptForms.Terminal.Layout
import ScriptForms.Terminal.Literal
import ScriptForms.Terminal.Renderer
import ScriptForms.Terminal.Style
import ScriptForms.Text.Blank
import ScriptForms.Text.Casing
import ScriptForms.Text.CodePoints
import ScriptForms.Text.DecimalDigit
import ScriptForms.Text.LowerCase
import ScriptForms.Text.Printable
import ScriptForms.Text.Quoted
import ScriptForms.Text.RangeTable
import ScriptForms.Text.Utf8
import ScriptForms.Text.WordChar
import ScriptForms.Toml.Basic
import ScriptForms.Toml.Moment
import ScriptForms.Toml.Number
import ScriptForms.Toml.Reader
import ScriptForms.Toml.Text
import ScriptForms.Value
import ScriptForms.Proofs.Lowering.Equations
import ScriptForms.Proofs.Lowering.Elimination
import ScriptForms.Proofs.Lowering.Leaves
import ScriptForms.Proofs.Pattern.References
import ScriptForms.Proofs.Pattern.Resolution
import ScriptForms.Proofs.Pattern.Seams
import ScriptForms.Proofs.Lexicon.Table
import ScriptForms.Proofs.Node.Reader
import ScriptForms.Proofs.Pattern.OnePass
import ScriptForms.Proofs.Program.ReadBack
import ScriptForms.Proofs.Lexicon.StringToken
import ScriptForms.Proofs.Node.RoundTrip
import ScriptForms.Proofs.Lowering.Idempotence
import ScriptForms.Proofs.Pattern.Session
import ScriptForms.Proofs.Program.Stages
import ScriptForms.Proofs.Program.Commutation
import ScriptForms.Proofs.FileSystem.Lookup
import ScriptForms.Proofs.Config.SettingsFile
import ScriptForms.Proofs.Config.Precedence
import ScriptForms.Proofs.FileSystem.Change
import ScriptForms.Proofs.Command.Exits
import ScriptForms.Proofs.Command.Output
import ScriptForms.Proofs.Lowering.Transparency
import ScriptForms.Proofs.Program.ForwardReferences
import ScriptForms.Proofs.Lowering.LetGroup
import ScriptForms.Proofs.Node.FirstFault
import ScriptForms.Proofs.Regex.Ends
import ScriptForms.Proofs.Regex.Language
import ScriptForms.Proofs.Regex.LongestFirst
import ScriptForms.Proofs.Lexicon.NumberLiteral
import ScriptForms.Proofs.Lexicon.Parentheses
import ScriptForms.Proofs.Lexicon.Symbols
import ScriptForms.Proofs.Lexicon.FunctionKey
import ScriptForms.Proofs.Lexicon.SingleQuotes
import ScriptForms.Proofs.Lexicon.DefinitionKey
import ScriptForms.Proofs.Path.SearchPath
import ScriptForms.Proofs.Text.LowerCase
import ScriptForms.Proofs.Config.Style
import ScriptForms.Proofs.Node.FirstProvisional
import ScriptForms.Proofs.Path.Composition
import ScriptForms.Proofs.Lowering.Flattening
import ScriptForms.Proofs.Program.Lines

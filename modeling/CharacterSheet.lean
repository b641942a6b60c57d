import CharacterSheet.Arithmetic.Calculation
import CharacterSheet.Arithmetic.ComplexFloat
import CharacterSheet.Arithmetic.Error
import CharacterSheet.Arithmetic.Lexeme
import CharacterSheet.Arithmetic.Lists
import CharacterSheet.Arithmetic.Operator
import CharacterSheet.Arithmetic.Program
import CharacterSheet.Arithmetic.Template
import CharacterSheet.Arithmetic.Value
import CharacterSheet.Arithmetic.Variables
import CharacterSheet.Command
import CharacterSheet.Command.Arguments
import CharacterSheet.Command.Reader
import CharacterSheet.Command.Report
import CharacterSheet.Command.Run
import CharacterSheet.DiceChoice
import CharacterSheet.DiceUse
import CharacterSheet.DocumentFormat
import CharacterSheet.DocumentText
import CharacterSheet.Editing
import CharacterSheet.Editing.Place
import CharacterSheet.Evaluation
import CharacterSheet.FileStore
import CharacterSheet.Formula.Cycle
import CharacterSheet.Formula.Dependency
import CharacterSheet.Json
import CharacterSheet.Json.Bounded
import CharacterSheet.Json.Printer
import CharacterSheet.Json.Reader
import CharacterSheet.Legacy
import CharacterSheet.Legacy.Access
import CharacterSheet.Main
import CharacterSheet.Menu
import CharacterSheet.Number
import CharacterSheet.Number.Binary64
import CharacterSheet.Number.Decimal
import CharacterSheet.Number.Numeral
import CharacterSheet.Number.Places
import CharacterSheet.Path
import CharacterSheet.Preview
import CharacterSheet.Preview.Wording
import CharacterSheet.Proofs.Arithmetic.Formula
import CharacterSheet.Proofs.Arithmetic.Integers
import CharacterSheet.Proofs.Arithmetic.Operands
import CharacterSheet.Proofs.Arithmetic.Orderly
import CharacterSheet.Proofs.Arithmetic.Parts
import CharacterSheet.Proofs.Arithmetic.PlainTexts
import CharacterSheet.Proofs.Arithmetic.Postfix
import CharacterSheet.Proofs.Command.Cycles
import CharacterSheet.Proofs.Command.Documents
import CharacterSheet.Proofs.Command.Failures
import CharacterSheet.Proofs.Command.Reports
import CharacterSheet.Proofs.Editing.Acyclicity
import CharacterSheet.Proofs.Editing.AvailableStats
import CharacterSheet.Proofs.Editing.Changes
import CharacterSheet.Proofs.Editing.Cleanness
import CharacterSheet.Proofs.Editing.Copies
import CharacterSheet.Proofs.Editing.FormulaEdits
import CharacterSheet.Proofs.Editing.Items
import CharacterSheet.Proofs.Formula.Checker
import CharacterSheet.Proofs.Formula.Detection
import CharacterSheet.Proofs.Formula.Graph
import CharacterSheet.Proofs.Formula.Search
import CharacterSheet.Proofs.Formula.Visits
import CharacterSheet.Proofs.Formula.Walk
import CharacterSheet.Proofs.Legacy.OptionNames
import CharacterSheet.Proofs.Legacy.Replacements
import CharacterSheet.Proofs.Legacy.Texts
import CharacterSheet.Proofs.Menu.Offers
import CharacterSheet.Proofs.Preview.Conditions
import CharacterSheet.Proofs.Preview.Dependence
import CharacterSheet.Proofs.Preview.DiceValues
import CharacterSheet.Proofs.Preview.EnumOptions
import CharacterSheet.Proofs.Preview.Initiative
import CharacterSheet.Proofs.Preview.LeastValues
import CharacterSheet.Proofs.Preview.Locality
import CharacterSheet.Proofs.Preview.Payload
import CharacterSheet.Proofs.Preview.Rendering
import CharacterSheet.Proofs.Preview.Samples
import CharacterSheet.Proofs.Preview.Simultaneity
import CharacterSheet.Proofs.Preview.Substitution
import CharacterSheet.Proofs.Preview.Totality
import CharacterSheet.Proofs.Schema.Displays
import CharacterSheet.Proofs.Schema.Entries
import CharacterSheet.Proofs.Schema.Faults
import CharacterSheet.Proofs.Schema.Lasting
import CharacterSheet.Proofs.Schema.Legible
import CharacterSheet.Proofs.Schema.Localizations
import CharacterSheet.Proofs.Schema.Places
import CharacterSheet.Proofs.Schema.Reading
import CharacterSheet.Proofs.Schema.Rereading
import CharacterSheet.Proofs.Schema.Values
import CharacterSheet.Proofs.Text.Numbers
import CharacterSheet.Proofs.Text.Spaced
import CharacterSheet.Proofs.Token.Bodies
import CharacterSheet.Proofs.Token.Contexts
import CharacterSheet.Proofs.Token.Coverage
import CharacterSheet.Proofs.Token.Lookups
import CharacterSheet.Proofs.Token.Mentions
import CharacterSheet.Proofs.Token.References
import CharacterSheet.Proofs.Token.Rerendering
import CharacterSheet.Proofs.Token.Segments
import CharacterSheet.Proofs.Validation.Clean
import CharacterSheet.Proofs.Validation.CycleIssues
import CharacterSheet.Proofs.Validation.Drafts
import CharacterSheet.Proofs.Validation.Duplicates
import CharacterSheet.Proofs.Validation.Exactness
import CharacterSheet.Proofs.Validation.IssuePaths
import CharacterSheet.Proofs.Validation.LegibleDrafts
import CharacterSheet.Proofs.Validation.Links
import CharacterSheet.Proofs.Validation.Loading
import CharacterSheet.Proofs.Validation.OptionLinks
import CharacterSheet.Proofs.Validation.Order
import CharacterSheet.Proofs.Validation.Parts
import CharacterSheet.Proofs.Validation.PlainFormulas
import CharacterSheet.Proofs.Validation.Previews
import CharacterSheet.Proofs.Validation.Replacements
import CharacterSheet.Proofs.Validation.RoundTrip
import CharacterSheet.Proofs.Validation.Site
import CharacterSheet.Proofs.Validation.Strictness
import CharacterSheet.Proofs.Validation.Totality
import CharacterSheet.Proofs.Validation.Unseen
import CharacterSheet.Proofs.Yaml.Blocks
import CharacterSheet.Proofs.Yaml.Hexadecimal
import CharacterSheet.Proofs.Yaml.Scans
import CharacterSheet.Roll
import CharacterSheet.Roll.Lexeme
import CharacterSheet.Roll.Outcome
import CharacterSheet.Roll.Reader
import CharacterSheet.Sample
import CharacterSheet.Schema
import CharacterSheet.Schema.Checked
import CharacterSheet.Schema.Document
import CharacterSheet.Schema.LenientText
import CharacterSheet.Schema.Outline
import CharacterSheet.Schema.Reader
import CharacterSheet.Schema.Scalars
import CharacterSheet.SchemaFile
import CharacterSheet.Settings
import CharacterSheet.Text.Alphanumeric
import CharacterSheet.Text.Blank
import CharacterSheet.Text.CodePoint
import CharacterSheet.Text.CodeRanges
import CharacterSheet.Text.DecimalDigit
import CharacterSheet.Text.Letter
import CharacterSheet.Text.Literal
import CharacterSheet.Text.Lowercase
import CharacterSheet.Text.Pieces
import CharacterSheet.Text.Printable
import CharacterSheet.Text.Quoted
import CharacterSheet.Token
import CharacterSheet.Token.Lexer
import CharacterSheet.Token.Mention
import CharacterSheet.Token.References
import CharacterSheet.Token.Substitution
import CharacterSheet.Validation
import CharacterSheet.Validation.Draft
import CharacterSheet.Validation.Issue
import CharacterSheet.Yaml.Cursor
import CharacterSheet.Yaml.Node
import CharacterSheet.Yaml.Quoted
import CharacterSheet.Yaml.Reader
import CharacterSheet.Yaml.Scalar
import CharacterSheet.Yaml.Token
import CharacterSheet.Yaml.Value

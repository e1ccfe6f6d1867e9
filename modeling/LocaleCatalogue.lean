import LocaleCatalogue.Catalogue.Assembly
import LocaleCatalogue.Catalogue.Complaint
import LocaleCatalogue.Catalogue.Discovery
import LocaleCatalogue.Catalogue.Extraction
import LocaleCatalogue.Catalogue.Failure
import LocaleCatalogue.Catalogue.Key
import LocaleCatalogue.Catalogue.Language
import LocaleCatalogue.Catalogue.Logged
import LocaleCatalogue.Catalogue.Progress
import LocaleCatalogue.Catalogue.Remark
import LocaleCatalogue.Catalogue.Spread
import LocaleCatalogue.Command.Arguments
import LocaleCatalogue.Command.Run
import LocaleCatalogue.Data.Json.Reading
import LocaleCatalogue.Data.Json.Writing
import LocaleCatalogue.Data.Signature
import LocaleCatalogue.Data.Toml.Document
import LocaleCatalogue.Data.Toml.Scalar
import LocaleCatalogue.Data.Toml.Table
import LocaleCatalogue.Data.Value
import LocaleCatalogue.Decimal.Reading
import LocaleCatalogue.Decimal.Shortest
import LocaleCatalogue.Files.Access
import LocaleCatalogue.Files.Append
import LocaleCatalogue.Files.Arrange
import LocaleCatalogue.Files.Basic
import LocaleCatalogue.Files.Glob
import LocaleCatalogue.Files.Walk
import LocaleCatalogue.Main
import LocaleCatalogue.Path.Basic
import LocaleCatalogue.Path.Pattern
import LocaleCatalogue.Path.Spelling
import LocaleCatalogue.Report.Console
import LocaleCatalogue.Report.Emoji
import LocaleCatalogue.Report.Log
import LocaleCatalogue.Report.Markup
import LocaleCatalogue.Report.Table
import LocaleCatalogue.Report.Terminal
import LocaleCatalogue.Report.Width
import LocaleCatalogue.Report.Wrap
import LocaleCatalogue.Script.Class
import LocaleCatalogue.Script.Expression
import LocaleCatalogue.Script.Grammar
import LocaleCatalogue.Script.Lexeme
import LocaleCatalogue.Script.Markup
import LocaleCatalogue.Script.Module
import LocaleCatalogue.Script.Parse
import LocaleCatalogue.Script.Parser
import LocaleCatalogue.Script.Pattern
import LocaleCatalogue.Script.Program
import LocaleCatalogue.Script.Semicolon
import LocaleCatalogue.Script.Source
import LocaleCatalogue.Script.Statement
import LocaleCatalogue.Script.Token
import LocaleCatalogue.Script.Tree
import LocaleCatalogue.Script.Type
import LocaleCatalogue.Settings.Basic
import LocaleCatalogue.Settings.Environment
import LocaleCatalogue.Settings.Layers
import LocaleCatalogue.Syntax.Assertion
import LocaleCatalogue.Syntax.Diagnosis
import LocaleCatalogue.Syntax.Import
import LocaleCatalogue.Syntax.Literal
import LocaleCatalogue.Syntax.Location
import LocaleCatalogue.Syntax.Node
import LocaleCatalogue.Syntax.Property
import LocaleCatalogue.Text.Basic
import LocaleCatalogue.Text.Column
import LocaleCatalogue.Text.Integer
import LocaleCatalogue.Text.Printable
import LocaleCatalogue.Text.Quoted
import LocaleCatalogue.Text.Utf8
import LocaleCatalogue.Proofs.Path.Reading
import LocaleCatalogue.Proofs.Path.Order
import LocaleCatalogue.Proofs.Path.Wildcards
import LocaleCatalogue.Proofs.Files.Found
import LocaleCatalogue.Proofs.Catalogue.Outcome
import LocaleCatalogue.Proofs.Catalogue.Walks
import LocaleCatalogue.Proofs.Catalogue.Listing
import LocaleCatalogue.Proofs.Catalogue.Visit
import LocaleCatalogue.Proofs.Catalogue.Inlining
import LocaleCatalogue.Proofs.Catalogue.Refusal
import LocaleCatalogue.Proofs.Script.Marks
import LocaleCatalogue.Proofs.Script.Laid
import LocaleCatalogue.Proofs.Script.Tokens
import LocaleCatalogue.Proofs.Script.Strings
import LocaleCatalogue.Proofs.Script.Expressions
import LocaleCatalogue.Proofs.Script.Statements
import LocaleCatalogue.Proofs.Catalogue.Sources
import LocaleCatalogue.Proofs.Catalogue.Collection
import LocaleCatalogue.Proofs.Catalogue.Completion
import LocaleCatalogue.Proofs.Script.Lexemes
import LocaleCatalogue.Proofs.Script.Literals
import LocaleCatalogue.Proofs.Catalogue.Spans
import LocaleCatalogue.Proofs.Catalogue.Groups
import LocaleCatalogue.Proofs.Catalogue.Standard
import LocaleCatalogue.Proofs.Catalogue.Abort
import LocaleCatalogue.Proofs.Catalogue.Nesting
import LocaleCatalogue.Proofs.Files.Passing
import LocaleCatalogue.Proofs.Files.Answers
import LocaleCatalogue.Proofs.Files.Asked
import LocaleCatalogue.Proofs.Files.Selected
import LocaleCatalogue.Proofs.Files.Trees
import LocaleCatalogue.Proofs.Files.Spelled
import LocaleCatalogue.Proofs.Catalogue.Reachable
import LocaleCatalogue.Proofs.Json.Written
import LocaleCatalogue.Proofs.Script.Spacing
import LocaleCatalogue.Proofs.Script.Numbers
import LocaleCatalogue.Proofs.Text.Hexadecimal
import LocaleCatalogue.Proofs.Script.Letters
import LocaleCatalogue.Proofs.Script.Endings
import LocaleCatalogue.Proofs.Script.Values
import LocaleCatalogue.Proofs.Script.Export
import LocaleCatalogue.Proofs.Catalogue.Objects
import LocaleCatalogue.Proofs.Report.Interpretation
import LocaleCatalogue.Proofs.Report.Terminal
import LocaleCatalogue.Proofs.Command.Places
import LocaleCatalogue.Proofs.Catalogue.Alike
import LocaleCatalogue.Proofs.Files.Shapes
import LocaleCatalogue.Proofs.Syntax.Comments
import LocaleCatalogue.Proofs.Syntax.Transparency
import LocaleCatalogue.Proofs.Catalogue.Shapes
import LocaleCatalogue.Proofs.Catalogue.Comments
import LocaleCatalogue.Proofs.Data.Entries
import LocaleCatalogue.Proofs.Toml.Tables
import LocaleCatalogue.Proofs.Toml.Reading
import LocaleCatalogue.Proofs.Toml.Documents
import LocaleCatalogue.Proofs.Settings.Checks
import LocaleCatalogue.Proofs.Settings.Resolution
import LocaleCatalogue.Proofs.Toml.Sections
import LocaleCatalogue.Proofs.Settings.Layouts
import LocaleCatalogue.Proofs.Settings.Failures
import LocaleCatalogue.Proofs.Command.Unsettled
import LocaleCatalogue.Proofs.Settings.Loaded
import LocaleCatalogue.Proofs.Text.Leads
import LocaleCatalogue.Proofs.Text.Newlines
import LocaleCatalogue.Proofs.Catalogue.Newlines
import LocaleCatalogue.Proofs.Syntax.Spelling
import LocaleCatalogue.Proofs.Catalogue.Accesses
import LocaleCatalogue.Proofs.Catalogue.Unresolved
import LocaleCatalogue.Proofs.Files.Edits
import LocaleCatalogue.Proofs.Catalogue.Locality
import LocaleCatalogue.Proofs.Catalogue.Spellings
import LocaleCatalogue.Proofs.Text.Surrogates
import LocaleCatalogue.Proofs.Text.Decimal
import LocaleCatalogue.Proofs.Json.Standard
import LocaleCatalogue.Proofs.Json.Reader
import LocaleCatalogue.Proofs.Json.Printed
import LocaleCatalogue.Proofs.Command.Recovered
import LocaleCatalogue.Proofs.Catalogue.NonMatches
import LocaleCatalogue.Proofs.Catalogue.Accounts
import LocaleCatalogue.Proofs.Script.Signs
import LocaleCatalogue.Proofs.Catalogue.SameKeys
import LocaleCatalogue.Proofs.Script.Words
import LocaleCatalogue.Proofs.Script.Imports
import LocaleCatalogue.Proofs.Script.ImportStatements
import LocaleCatalogue.Proofs.Script.Lines
import LocaleCatalogue.Proofs.Syntax.DefaultImports
import LocaleCatalogue.Proofs.Syntax.FirstFault
import LocaleCatalogue.Proofs.Script.Sequence
import LocaleCatalogue.Proofs.Catalogue.Bars
import LocaleCatalogue.Proofs.Catalogue.Direct
import LocaleCatalogue.Proofs.Catalogue.Wrappers
import LocaleCatalogue.Proofs.Syntax.Escapes
import LocaleCatalogue.Proofs.Catalogue.Tags

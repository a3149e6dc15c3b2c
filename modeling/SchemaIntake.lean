import SchemaIntake.Text.Basic
import SchemaIntake.Text.Blank
import SchemaIntake.Text.CaseTable
import SchemaIntake.Text.CaseContext
import SchemaIntake.Text.Graphic
import SchemaIntake.Text.Case
import SchemaIntake.Text.Quoted
import SchemaIntake.Ddl.Statement
import SchemaIntake.Ddl.Nesting
import SchemaIntake.Ddl.ColumnDefinition
import SchemaIntake.Ddl.TableConstraint
import SchemaIntake.Schema.Check
import SchemaIntake.Json.Printer
import SchemaIntake.Json.Reader
import SchemaIntake.Schema.Wire
import SchemaIntake.Conversion.Request
import SchemaIntake.Conversion.Session
import SchemaIntake.Toml.Reader
import SchemaIntake.CommandLine.Config
import SchemaIntake.Files.Expansion
import SchemaIntake.CommandLine.Commands
import SchemaIntake.Conversion.Uuid
import SchemaIntake.Main
import SchemaIntake.Proofs.Text.Trimming
import SchemaIntake.Proofs.Text.Cutting
import SchemaIntake.Proofs.Text.Positions
import SchemaIntake.Proofs.Text.Casing
import SchemaIntake.Proofs.Text.LetterCase
import SchemaIntake.Proofs.Text.LowerCase
import SchemaIntake.Proofs.Ddl.Elements
import SchemaIntake.Proofs.Ddl.Phrases
import SchemaIntake.Proofs.Ddl.Headers
import SchemaIntake.Proofs.Ddl.Statements
import SchemaIntake.Proofs.Ddl.Tokens
import SchemaIntake.Proofs.Ddl.Modifiers
import SchemaIntake.Proofs.Ddl.ModifierTails
import SchemaIntake.Proofs.Ddl.ColumnFaults
import SchemaIntake.Proofs.Ddl.Columns
import SchemaIntake.Proofs.Schema.Outcomes
import SchemaIntake.Proofs.Schema.Verdicts
import SchemaIntake.Proofs.Schema.Scripts
import SchemaIntake.Proofs.Schema.Classification
import SchemaIntake.Proofs.Schema.PrimaryKeys
import SchemaIntake.Proofs.Conversion.Records
import SchemaIntake.Proofs.Conversion.Work
import SchemaIntake.Proofs.Conversion.Intake
import SchemaIntake.Proofs.Conversion.Requests
import SchemaIntake.Proofs.Conversion.Lifecycle
import SchemaIntake.Proofs.Conversion.Courses
import SchemaIntake.Proofs.Conversion.Interleaving
import SchemaIntake.Proofs.Conversion.Dispatch
import SchemaIntake.Proofs.Ddl.WellNested
import SchemaIntake.Proofs.Ddl.LetterCase
import SchemaIntake.Proofs.Schema.Independence
import SchemaIntake.Proofs.Schema.WellNested
import SchemaIntake.Proofs.Schema.LetterCase
import SchemaIntake.Proofs.Schema.Coverage
import SchemaIntake.Proofs.Schema.Divisions
import SchemaIntake.Proofs.Schema.TableNames
import SchemaIntake.Proofs.Schema.Reports
import SchemaIntake.Proofs.Schema.Tables
import SchemaIntake.Proofs.Ddl.Separators
import SchemaIntake.Proofs.Ddl.Cropping
import SchemaIntake.Proofs.Ddl.Spacing
import SchemaIntake.Proofs.Ddl.Delimiters
import SchemaIntake.Proofs.Ddl.Gaps
import SchemaIntake.Proofs.Ddl.Literals
import SchemaIntake.Proofs.Ddl.TypeSpellings
import SchemaIntake.Proofs.Ddl.BareWords
import SchemaIntake.Proofs.Ddl.TypeWords
import SchemaIntake.Proofs.Ddl.QuotedTokens
import SchemaIntake.Proofs.Ddl.IntroducedValues
import SchemaIntake.Proofs.Ddl.QuotedNames
import SchemaIntake.Proofs.Ddl.UnpairedQuotes
import SchemaIntake.Proofs.Ddl.Defaults
import SchemaIntake.Proofs.Schema.Spacing
import SchemaIntake.Proofs.Conversion.DeadLetters
import SchemaIntake.Proofs.Json.Literals
import SchemaIntake.Proofs.Json.Values
import SchemaIntake.Proofs.Json.Fields
import SchemaIntake.Proofs.Conversion.Calendar
import SchemaIntake.Proofs.Conversion.Timestamps
import SchemaIntake.Proofs.Conversion.WireFormats
import SchemaIntake.Proofs.Files.Paths
import SchemaIntake.Proofs.Files.Selection
import SchemaIntake.Proofs.CommandLine.Convert
import SchemaIntake.Proofs.CommandLine.Check
import SchemaIntake.Proofs.CommandLine.ExitStatus

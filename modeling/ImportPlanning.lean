/-
Planning SQL imports: settings, data sources, plans and the command line.
-/
import ImportPlanning.Calendar
import ImportPlanning.Columns
import ImportPlanning.CommandLine.Arguments
import ImportPlanning.CommandLine.Options
import ImportPlanning.CommandLine.Run
import ImportPlanning.Conditions
import ImportPlanning.ContextKeys
import ImportPlanning.DataSource.Basic
import ImportPlanning.DataSource.ColumnType
import ImportPlanning.DataSource.Dialect
import ImportPlanning.DataSource.Fault
import ImportPlanning.DataSource.Statement
import ImportPlanning.Executor
import ImportPlanning.Failure
import ImportPlanning.Journal
import ImportPlanning.Json.Printer
import ImportPlanning.Json.Reader
import ImportPlanning.LogSetup
import ImportPlanning.Main
import ImportPlanning.Number.Decimal
import ImportPlanning.Number.Floating
import ImportPlanning.Number.Integer
import ImportPlanning.Plan
import ImportPlanning.Planner
import ImportPlanning.PlannerError
import ImportPlanning.Redaction
import ImportPlanning.RunContext
import ImportPlanning.Session
import ImportPlanning.Settings.Files
import ImportPlanning.Settings.Layers
import ImportPlanning.Settings.Loading
import ImportPlanning.Settings.Models
import ImportPlanning.Settings.Validation
import ImportPlanning.Source
import ImportPlanning.Text.Blank
import ImportPlanning.Text.Casing
import ImportPlanning.Text.Digit
import ImportPlanning.Text.Hex
import ImportPlanning.Text.Pieces
import ImportPlanning.Text.Printable
import ImportPlanning.Text.Quoted
import ImportPlanning.Text.Ranges
import ImportPlanning.Text.Utf8
import ImportPlanning.Text.Word
import ImportPlanning.Url.Basic
import ImportPlanning.Url.Mask
import ImportPlanning.Url.Percent
import ImportPlanning.Url.Printer
import ImportPlanning.Url.Reader
import ImportPlanning.Uuid
import ImportPlanning.Value.Basic
import ImportPlanning.Value.Display
import ImportPlanning.Value.Entries
import ImportPlanning.Value.Equality
import ImportPlanning.Value.Integer
import ImportPlanning.Yaml.Cursor
import ImportPlanning.Yaml.Document
import ImportPlanning.Yaml.Lexer
import ImportPlanning.Yaml.Node
import ImportPlanning.Yaml.Scalar
import ImportPlanning.Yaml.Tag
import ImportPlanning.Yaml.Token
import ImportPlanning.Proofs.Addresses
import ImportPlanning.Proofs.Agreement
import ImportPlanning.Proofs.Answers
import ImportPlanning.Proofs.BlankSettings
import ImportPlanning.Proofs.BoundaryResults
import ImportPlanning.Proofs.Breakdowns
import ImportPlanning.Proofs.ColumnLists
import ImportPlanning.Proofs.CommandLines
import ImportPlanning.Proofs.Conditions
import ImportPlanning.Proofs.ConfigErrors
import ImportPlanning.Proofs.DenotedTables
import ImportPlanning.Proofs.Engines
import ImportPlanning.Proofs.FieldNames
import ImportPlanning.Proofs.Frames
import ImportPlanning.Proofs.Identifiers
import ImportPlanning.Proofs.Json.Documents
import ImportPlanning.Proofs.Json.Plain
import ImportPlanning.Proofs.Json.Strings
import ImportPlanning.Proofs.Layers.Connection
import ImportPlanning.Proofs.Layers.Jobs
import ImportPlanning.Proofs.Layers.Overrides
import ImportPlanning.Proofs.Layers.Ports
import ImportPlanning.Proofs.Layers.Variables
import ImportPlanning.Proofs.Lifecycle
import ImportPlanning.Proofs.Loading
import ImportPlanning.Proofs.LogSetup
import ImportPlanning.Proofs.Number.Integer
import ImportPlanning.Proofs.Overlay
import ImportPlanning.Proofs.Pairs
import ImportPlanning.Proofs.PlanCommand
import ImportPlanning.Proofs.PlanningFailures
import ImportPlanning.Proofs.Preparation
import ImportPlanning.Proofs.PrintedContexts
import ImportPlanning.Proofs.PrintedReports
import ImportPlanning.Proofs.Publication
import ImportPlanning.Proofs.PublishedCredentials
import ImportPlanning.Proofs.ReadBack
import ImportPlanning.Proofs.Redaction.Lists
import ImportPlanning.Proofs.Redaction.Paths
import ImportPlanning.Proofs.Redaction.Ports
import ImportPlanning.Proofs.Release
import ImportPlanning.Proofs.Reports
import ImportPlanning.Proofs.ResultColumns
import ImportPlanning.Proofs.Secrecy.Arguments
import ImportPlanning.Proofs.Secrecy.Entries
import ImportPlanning.Proofs.Secrecy.Loading
import ImportPlanning.Proofs.Secrecy.Planning
import ImportPlanning.Proofs.Secrecy.Runs
import ImportPlanning.Proofs.Secrecy.Settings
import ImportPlanning.Proofs.SelectList
import ImportPlanning.Proofs.Session
import ImportPlanning.Proofs.SharedRelation
import ImportPlanning.Proofs.Stages
import ImportPlanning.Proofs.Statements
import ImportPlanning.Proofs.Substitution
import ImportPlanning.Proofs.TableNames
import ImportPlanning.Proofs.Template
import ImportPlanning.Proofs.Text.Fields
import ImportPlanning.Proofs.Text.Marks
import ImportPlanning.Proofs.Text.Pieces
import ImportPlanning.Proofs.Text.Utf8
import ImportPlanning.Proofs.TokenCuts
import ImportPlanning.Proofs.TokenFreedom
import ImportPlanning.Proofs.Url.Credentials
import ImportPlanning.Proofs.Url.Masking
import ImportPlanning.Proofs.Url.Parts
import ImportPlanning.Proofs.Url.Percent
import ImportPlanning.Proofs.Url.Query
import ImportPlanning.Proofs.Verbatim
import ImportPlanning.Proofs.WriteOnce

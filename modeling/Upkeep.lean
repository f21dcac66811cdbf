import Upkeep.Analyzer.Source
import Upkeep.Category.Catalogue
import Upkeep.Category.Engine
import Upkeep.Category.Hierarchy
import Upkeep.Category.IconMap
import Upkeep.Category.Statement
import Upkeep.Category.Template
import Upkeep.CommandLine.Arguments
import Upkeep.CommandLine.Request
import Upkeep.CommandLine.Session
import Upkeep.Database.Content
import Upkeep.Database.Encoding
import Upkeep.Database.Image
import Upkeep.Database.Journal
import Upkeep.Database.Layout
import Upkeep.Database.Location
import Upkeep.Database.Record
import Upkeep.Database.Value
import Upkeep.Decimal.Binary
import Upkeep.Decimal.Notation
import Upkeep.Decimal.Reading
import Upkeep.Failure
import Upkeep.FileTree
import Upkeep.Finding
import Upkeep.Finding.Group
import Upkeep.Finding.Layout
import Upkeep.Finding.Listing
import Upkeep.Fix.ConstructorConst
import Upkeep.Fix.Fixer
import Upkeep.Fix.FoundationImport
import Upkeep.Fix.InvalidConst
import Upkeep.Fix.MaterialImport
import Upkeep.Fix.MountedGuard
import Upkeep.Fix.Outcome
import Upkeep.Fix.UnusedImport
import Upkeep.Json.Document
import Upkeep.Json.Scalar
import Upkeep.Json.Shape
import Upkeep.Path
import Upkeep.Proofs.Category.Families
import Upkeep.Proofs.Category.Icons
import Upkeep.Proofs.Category.Import
import Upkeep.Proofs.Category.Linkage
import Upkeep.Proofs.Category.Lookup
import Upkeep.Proofs.Category.Meaning
import Upkeep.Proofs.Category.ReadBack
import Upkeep.Proofs.Category.Shelf
import Upkeep.Proofs.Category.Transaction
import Upkeep.Proofs.FileTree
import Upkeep.Proofs.Finding.Csv
import Upkeep.Proofs.Finding.Groups
import Upkeep.Proofs.Finding.Layouts
import Upkeep.Proofs.Finding.Machine
import Upkeep.Proofs.Finding.Parts
import Upkeep.Proofs.Finding.RoundTrip
import Upkeep.Proofs.Fix.ConstCount
import Upkeep.Proofs.Fix.ConstCuts
import Upkeep.Proofs.Fix.ConstructorConst
import Upkeep.Proofs.Fix.EditCount
import Upkeep.Proofs.Fix.GuardPlacement
import Upkeep.Proofs.Fix.GuardedUses
import Upkeep.Proofs.Fix.ImportCount
import Upkeep.Proofs.Fix.ImportPlacement
import Upkeep.Proofs.Fix.ImportsAtOnce
import Upkeep.Proofs.Fix.LineEnds
import Upkeep.Proofs.Fix.MountedGuard
import Upkeep.Proofs.Fix.Outcome
import Upkeep.Proofs.Fix.ReportedImport
import Upkeep.Proofs.Fix.UncoveredConst
import Upkeep.Proofs.Fix.UnusedImport
import Upkeep.Proofs.Run.EditCount
import Upkeep.Proofs.Run.Findings
import Upkeep.Proofs.Run.Isolation
import Upkeep.Proofs.Run.Preview
import Upkeep.Proofs.Run.Redirection
import Upkeep.Proofs.Run.Visit
import Upkeep.Proofs.Source.Buffer
import Upkeep.Proofs.Source.ConstKeyword
import Upkeep.Proofs.Source.ConstSearch
import Upkeep.Proofs.Source.ConstSpan
import Upkeep.Proofs.Source.Directive
import Upkeep.Proofs.Source.ImportPoint
import Upkeep.Proofs.Source.Insertion
import Upkeep.Proofs.Source.LineEdit
import Upkeep.Proofs.Source.LineEnds
import Upkeep.Proofs.Source.Replacement
import Upkeep.Proofs.Source.Size
import Upkeep.Proofs.Text.Lines
import Upkeep.Proofs.Text.Order
import Upkeep.Proofs.Text.Splitting
import Upkeep.Proofs.Text.Trimming
import Upkeep.Proofs.Text.Utf8
import Upkeep.Proofs.Workspace.Access
import Upkeep.Proofs.Workspace.Below
import Upkeep.Proofs.Workspace.Discovery
import Upkeep.Proofs.Workspace.Sources
import Upkeep.Proofs.Workspace.Steps
import Upkeep.Reporting.Console
import Upkeep.Reporting.Document
import Upkeep.Run.Fix
import Upkeep.Run.Report
import Upkeep.Settings
import Upkeep.Sha256
import Upkeep.Shell.Arithmetic
import Upkeep.Shell.Builtin
import Upkeep.Shell.Condition
import Upkeep.Shell.Evaluation
import Upkeep.Shell.Field
import Upkeep.Shell.Grammar
import Upkeep.Shell.Job
import Upkeep.Shell.Lexer
import Upkeep.Shell.Machine
import Upkeep.Shell.Octets
import Upkeep.Shell.Pattern
import Upkeep.Shell.Printing
import Upkeep.Shell.Program
import Upkeep.Shell.RealNumber
import Upkeep.Shell.Run
import Upkeep.Shell.Syntax
import Upkeep.Source.Buffer
import Upkeep.Source.ConstKeyword
import Upkeep.Source.Directive
import Upkeep.Sql.State
import Upkeep.Sql.Aggregate
import Upkeep.Sql.Change
import Upkeep.Sql.Change.Numbering
import Upkeep.Sql.Change.Row
import Upkeep.Sql.Connection
import Upkeep.Sql.Definition
import Upkeep.Sql.Evaluation.Basic
import Upkeep.Sql.Evaluation.Formula
import Upkeep.Sql.Evaluation.Join
import Upkeep.Sql.Evaluation.Selection
import Upkeep.Sql.Evaluation.Table
import Upkeep.Sql.Evaluation.Window
import Upkeep.Sql.Function
import Upkeep.Sql.Function.Basic
import Upkeep.Sql.Function.Calendar
import Upkeep.Sql.Function.Format
import Upkeep.Sql.Function.Json
import Upkeep.Sql.Function.Text
import Upkeep.Sql.Grammar
import Upkeep.Sql.Json.Listing
import Upkeep.Sql.Json.Node
import Upkeep.Sql.Json.Packed
import Upkeep.Sql.Json.Path
import Upkeep.Sql.Number
import Upkeep.Sql.Operator
import Upkeep.Sql.Plan
import Upkeep.Sql.Plan.Parts
import Upkeep.Sql.Preparation
import Upkeep.Sql.Problem
import Upkeep.Sql.Program
import Upkeep.Sql.Reader
import Upkeep.Sql.Reference
import Upkeep.Sql.Resolution.Formula
import Upkeep.Sql.Resolution.Call
import Upkeep.Sql.Resolution.Selection
import Upkeep.Sql.Resolution.Source
import Upkeep.Sql.Rule
import Upkeep.Sql.Schema
import Upkeep.Sql.Scope
import Upkeep.Sql.Storage
import Upkeep.Sql.Syntax
import Upkeep.Sql.Token
import Upkeep.Sql.Transaction
import Upkeep.Sql.Value
import Upkeep.Structure.Manifest
import Upkeep.Structure.Survey
import Upkeep.Text.Basic
import Upkeep.Text.Blank
import Upkeep.Text.Count
import Upkeep.Text.Order
import Upkeep.Text.Quoted
import Upkeep.Text.Ranges
import Upkeep.Text.Utf8
import Upkeep.Text.Word
import Upkeep.Workspace
import Upkeep.Workspace.Discovery
import Upkeep.Main
import Upkeep.Proofs.Analyzer.Streams
import Upkeep.Proofs.Finding.Spelling
import Upkeep.Proofs.Fix.FoundationImport
import Upkeep.Proofs.Fix.MaterialImport
import Upkeep.Proofs.Run.Accounting
import Upkeep.Proofs.Run.RepeatedScan

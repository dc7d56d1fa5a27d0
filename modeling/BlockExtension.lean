import BlockExtension.Association
import BlockExtension.Block.Declaration
import BlockExtension.Block.Kind
import BlockExtension.Block.Resolved
import BlockExtension.CommandLine.Arguments
import BlockExtension.CommandLine.Help
import BlockExtension.CommandLine.Progress
import BlockExtension.CommandLine.Session
import BlockExtension.Configuration
import BlockExtension.Shell.Doubles
import BlockExtension.Decimal.Double
import BlockExtension.Decimal.Layout
import BlockExtension.Decimal.Power
import BlockExtension.Decimal.Shortest
import BlockExtension.Descriptor
import BlockExtension.Dispatch
import BlockExtension.Fault
import BlockExtension.Files.Edit
import BlockExtension.Files.Listing
import BlockExtension.Files.Lookup
import BlockExtension.Files.OsError
import BlockExtension.Files.Path
import BlockExtension.Files.Replace
import BlockExtension.Files.Snapshot
import BlockExtension.Files.Tree
import BlockExtension.Formatter
import BlockExtension.Generation
import BlockExtension.HeaderComment
import BlockExtension.Json.Reader
import BlockExtension.Json.Value
import BlockExtension.Json.Writer
import BlockExtension.Main
import BlockExtension.ModuleText
import BlockExtension.Naming
import BlockExtension.Patch
import BlockExtension.Placeholder
import BlockExtension.Resolution
import BlockExtension.Script.Identifier
import BlockExtension.Script.Literal
import BlockExtension.Shell.Ambient
import BlockExtension.Shell.Arithmetic
import BlockExtension.Shell.Assigning
import BlockExtension.Shell.Braces
import BlockExtension.Shell.Calendar
import BlockExtension.Shell.Channel
import BlockExtension.Shell.Command
import BlockExtension.Shell.Condition
import BlockExtension.Shell.Connection
import BlockExtension.Shell.Variable
import BlockExtension.Shell.Expansion
import BlockExtension.Shell.Fields
import BlockExtension.Shell.Formatting
import BlockExtension.Shell.Installation
import BlockExtension.Shell.Jobs
import BlockExtension.Shell.Machine
import BlockExtension.Shell.Octets
import BlockExtension.Shell.Ordered.Match
import BlockExtension.Shell.Ordered.Read
import BlockExtension.Shell.Pattern
import BlockExtension.Shell.Program
import BlockExtension.Shell.Reader.Grammar
import BlockExtension.Shell.Reader.Source
import BlockExtension.Shell.Reader.Tokens
import BlockExtension.Shell.Reader.Words
import BlockExtension.Shell.Regex
import BlockExtension.Shell.Route
import BlockExtension.Shell.Run
import BlockExtension.Shell.Signals
import BlockExtension.Shell.Utility.Blocks
import BlockExtension.Shell.Utility.Characters
import BlockExtension.Shell.Utility.Checksum
import BlockExtension.Shell.Utility.Columns
import BlockExtension.Shell.Utility.Comparison
import BlockExtension.Shell.Utility.Control
import BlockExtension.Shell.Utility.Excerpt
import BlockExtension.Shell.Utility.Declaring
import BlockExtension.Shell.Utility.Describing
import BlockExtension.Shell.Utility.Directories
import BlockExtension.Shell.Utility.Dump
import BlockExtension.Shell.Utility.Editing.Run
import BlockExtension.Shell.Utility.Editing.Script
import BlockExtension.Shell.Utility.Entries
import BlockExtension.Shell.Utility.Expression
import BlockExtension.Shell.Utility.Sequence
import BlockExtension.Shell.Utility.Filling
import BlockExtension.Shell.Utility.Finding.Query
import BlockExtension.Shell.Utility.Finding.Reading
import BlockExtension.Shell.Utility.Finding.Search
import BlockExtension.Shell.Utility.Input
import BlockExtension.Shell.Utility.Listing
import BlockExtension.Shell.Utility.Making
import BlockExtension.Shell.Utility.Names
import BlockExtension.Shell.Utility.Numbering
import BlockExtension.Shell.Utility.Options
import BlockExtension.Shell.Utility.Permission
import BlockExtension.Shell.Utility.Print
import BlockExtension.Shell.Utility.Programs
import BlockExtension.Shell.Utility.Ranking
import BlockExtension.Shell.Utility.Reading
import BlockExtension.Shell.Utility.Relation
import BlockExtension.Shell.Utility.Transfer
import BlockExtension.Shell.Utility.Repetition
import BlockExtension.Shell.Utility.Resolving
import BlockExtension.Shell.Utility.Running
import BlockExtension.Shell.Utility.Scaling
import BlockExtension.Shell.Utility.Scanning.Run
import BlockExtension.Shell.Utility.Scanning.Cells
import BlockExtension.Shell.Utility.Scanning.Functions
import BlockExtension.Shell.Utility.Scanning.Grammar
import BlockExtension.Shell.Utility.Scanning.Notation
import BlockExtension.Shell.Utility.Scanning.Store
import BlockExtension.Shell.Utility.Scanning.Streams
import BlockExtension.Shell.Utility.Scanning.Syntax
import BlockExtension.Shell.Utility.Scanning.Tokens
import BlockExtension.Shell.Utility.Searching
import BlockExtension.Shell.Utility.Settings
import BlockExtension.Shell.Utility.Sorting
import BlockExtension.Shell.Utility.Starting
import BlockExtension.Shell.Utility.Tabulation
import BlockExtension.Shell.Utility.Test
import BlockExtension.Shell.Utility.Waiting
import BlockExtension.Shell.Utility.Wording
import BlockExtension.Template
import BlockExtension.Text.Blank
import BlockExtension.Text.Lines
import BlockExtension.Text.Utf8
import BlockExtension.Proofs.Acceptance
import BlockExtension.Proofs.Entries
import BlockExtension.Proofs.CodeFidelity
import BlockExtension.Proofs.Agreement
import BlockExtension.Proofs.Containment
import BlockExtension.Proofs.HeaderComment
import BlockExtension.Proofs.FirstFault
import BlockExtension.Proofs.Schema
import BlockExtension.Proofs.Scoping
import BlockExtension.Proofs.ModuleScope
import BlockExtension.Proofs.Independence
import BlockExtension.Proofs.Renaming
import BlockExtension.Proofs.RepeatedKeys
import BlockExtension.Proofs.Ways
import BlockExtension.Proofs.Delivery
import BlockExtension.Proofs.TemplateBody
import BlockExtension.Proofs.DescriptorReading
import BlockExtension.Proofs.OwnProperties
import BlockExtension.Proofs.Setback
import BlockExtension.Proofs.Scanning
import BlockExtension.Proofs.Interpolation
import BlockExtension.Proofs.Views
import BlockExtension.Proofs.Mapping
import BlockExtension.Proofs.Reachability
import BlockExtension.Proofs.Atomicity
import BlockExtension.Proofs.Framing
import BlockExtension.Proofs.Indentation
import BlockExtension.Proofs.Patching
import BlockExtension.Proofs.Decimal.Numeral
import BlockExtension.Proofs.Decimal.Shortest
import BlockExtension.Proofs.DescriptorText
import BlockExtension.Proofs.Dispatch
import BlockExtension.Proofs.FreeText
import BlockExtension.Proofs.LiteralText
import BlockExtension.Proofs.Naming
import BlockExtension.Proofs.Resolution
import BlockExtension.Proofs.Script.Alike
import BlockExtension.Proofs.Script.Lexer
import BlockExtension.Proofs.Script.LiteralReader
import BlockExtension.Proofs.Script.Literals
import BlockExtension.Proofs.Script.ObjectLiteral
import BlockExtension.Proofs.Script.Pattern
import BlockExtension.Proofs.Script.Reading
import BlockExtension.Proofs.Script.Scope
import BlockExtension.Proofs.TableText
import BlockExtension.Proofs.TextCase
import BlockExtension.Proofs.TreeCase
import BlockExtension.Proofs.Writing

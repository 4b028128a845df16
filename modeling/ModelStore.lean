import ModelStore.Binary64.Basic
import ModelStore.Binary64.Decimal
import ModelStore.Cli.Arguments
import ModelStore.Cli.Disk
import ModelStore.Cli.Help
import ModelStore.Cli.Log
import ModelStore.Cli.Report
import ModelStore.Cli.Run
import ModelStore.Config.Basic
import ModelStore.Config.Decode
import ModelStore.Config.Error
import ModelStore.Config.File
import ModelStore.Config.Location
import ModelStore.Error
import ModelStore.Event
import ModelStore.Files.Path
import ModelStore.Files.Tree
import ModelStore.Json.Basic
import ModelStore.Json.Failure
import ModelStore.Json.Printer
import ModelStore.Json.Reader
import ModelStore.Json.Shape
import ModelStore.Main
import ModelStore.Opening
import ModelStore.Operation.Basic
import ModelStore.Operation.Method
import ModelStore.Operation.Note
import ModelStore.Operation.Work
import ModelStore.Proofs.Operation.BulkPolicy
import ModelStore.Proofs.Operation.Failure
import ModelStore.Proofs.Operation.Invariance
import ModelStore.Proofs.Operation.Running
import ModelStore.Proofs.Operation.Searching
import ModelStore.Proofs.Query.Conditions
import ModelStore.Proofs.Query.Naming
import ModelStore.Proofs.Query.Planning
import ModelStore.Proofs.Query.Reference
import ModelStore.Proofs.Query.Refinement
import ModelStore.Proofs.Query.Rendering
import ModelStore.Proofs.Schema.Creation
import ModelStore.Proofs.Sql.Pieces
import ModelStore.Proofs.Sql.Prepared
import ModelStore.Proofs.Store.Holding
import ModelStore.Proofs.Store.Keeping
import ModelStore.Query.Access
import ModelStore.Query.Builder
import ModelStore.Query.Decode
import ModelStore.Query.Eval
import ModelStore.Query.Mutation
import ModelStore.Query.Options
import ModelStore.Query.Plan
import ModelStore.Query.Predicate
import ModelStore.Query.Printer
import ModelStore.Query.Row
import ModelStore.Query.Scope
import ModelStore.Query.Statement
import ModelStore.Schema.Basic
import ModelStore.Schema.BuiltIn
import ModelStore.Schema.Ddl
import ModelStore.Seed
import ModelStore.Session
import ModelStore.Sql.Expr
import ModelStore.Sql.Name
import ModelStore.Sql.Reading
import ModelStore.Store.Address
import ModelStore.Store.Cell
import ModelStore.Store.Error
import ModelStore.Store.Image
import ModelStore.Store.Table
import ModelStore.Text.Blank
import ModelStore.Text.BreakClass
import ModelStore.Text.Debug
import ModelStore.Text.Escape
import ModelStore.Text.Identifier
import ModelStore.Text.LineBreak
import ModelStore.Text.Seen
import ModelStore.Text.Utf8
import ModelStore.Text.Width
import ModelStore.Text.Wrap
import ModelStore.Toml.Basic
import ModelStore.Toml.Document
import ModelStore.Toml.Form
import ModelStore.Toml.Position
import ModelStore.Toml.Printer
import ModelStore.Toml.Quoted
import ModelStore.Toml.Reader
import ModelStore.Toml.Scalar
import ModelStore.Toml.Token
import ModelStore.Proofs.Operation.ForeignOptions
import ModelStore.Proofs.Sql.Placeholders
import ModelStore.Proofs.Query.Statements
import ModelStore.Proofs.Query.Binding
import ModelStore.Proofs.Json.Outline
import ModelStore.Proofs.Query.Outline
import ModelStore.Proofs.Query.Shape
import ModelStore.Proofs.Operation.Outline
import ModelStore.Proofs.Operation.Compiling
import ModelStore.Proofs.Operation.Names
import ModelStore.Proofs.Operation.Faults
import ModelStore.Proofs.Operation.Shape
import ModelStore.Proofs.Operation.Detection
import ModelStore.Proofs.Store.Constraints
import ModelStore.Proofs.Query.Writing
import ModelStore.Proofs.Operation.Contents
import ModelStore.Proofs.Operation.Reaching
import ModelStore.Proofs.Operation.Integrity
import ModelStore.Proofs.Operation.Answering
import ModelStore.Proofs.Operation.Upserting
import ModelStore.Proofs.Operation.UpsertCorrect
import ModelStore.Proofs.Operation.Turns
import ModelStore.Proofs.Operation.Racing
import ModelStore.Proofs.Operation.Booleans
import ModelStore.Proofs.Operation.Effects
import ModelStore.Proofs.Operation.Framing
import ModelStore.Proofs.Operation.SingleTable
import ModelStore.Proofs.Operation.Counting
import ModelStore.Proofs.Store.Numerals
import ModelStore.Proofs.Operation.Creating
import ModelStore.Proofs.Query.FirstFault
import ModelStore.Proofs.Query.Nesting
import ModelStore.Proofs.Query.Resolving
import ModelStore.Proofs.Json.Keys
import ModelStore.Proofs.Query.Keys
import ModelStore.Proofs.Query.Sources
import ModelStore.Proofs.Operation.Finding
import ModelStore.Proofs.Query.Steps
import ModelStore.Proofs.Query.Written
import ModelStore.Proofs.Operation.Written
import ModelStore.Proofs.Query.Repeating
import ModelStore.Proofs.Query.Sizes
import ModelStore.Proofs.Operation.Repeating
import ModelStore.Proofs.Json.Reading
import ModelStore.Proofs.Operation.Calling
import ModelStore.Proofs.Json.Items
import ModelStore.Proofs.Operation.OptionItems
import ModelStore.Proofs.Query.Encoding
import ModelStore.Proofs.Json.Documents
import ModelStore.Proofs.Cli.Serving
import ModelStore.Proofs.Toml.Quoting
import ModelStore.Proofs.Toml.Pairs
import ModelStore.Proofs.Files.Writing
import ModelStore.Proofs.Config.Keeping
import ModelStore.Proofs.Store.Settling
import ModelStore.Proofs.Operation.Resending
import ModelStore.Proofs.Query.Windows
import ModelStore.Proofs.Operation.Paging
import ModelStore.Proofs.Query.Reports
import ModelStore.Proofs.Operation.Reports
import ModelStore.Proofs.Operation.Selecting
import ModelStore.Proofs.Operation.Sweeps
import ModelStore.Proofs.Query.Clauses
import ModelStore.Proofs.Operation.Filters
import ModelStore.Proofs.Query.Grammar
import ModelStore.Proofs.Sql.Tokens
import ModelStore.Proofs.Sql.Grouping
import ModelStore.Proofs.Sql.Precedence
import ModelStore.Proofs.Schema.Recovery
import ModelStore.Proofs.Query.Integers
import ModelStore.Proofs.Operation.Integers
import ModelStore.Proofs.Operation.Accepting
import ModelStore.Proofs.Operation.Seeding
import ModelStore.Proofs.Files.Joining
import ModelStore.Proofs.Config.Homes

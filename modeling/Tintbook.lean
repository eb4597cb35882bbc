import Tintbook.Cli.Grammar
import Tintbook.Cli.Help
import Tintbook.Cli.Misuse
import Tintbook.Cli.Parse
import Tintbook.Cli.Run
import Tintbook.Cli.Workspace
import Tintbook.Decimal.Layout
import Tintbook.Decimal.Nearest
import Tintbook.Decimal.Shortest
import Tintbook.Failure
import Tintbook.Formula.Basic
import Tintbook.Formula.Json
import Tintbook.Formula.Payload
import Tintbook.Json.Fault
import Tintbook.Json.Reader
import Tintbook.Json.Shape
import Tintbook.Json.Value
import Tintbook.Json.Writer
import Tintbook.Main
import Tintbook.Proofs.Store.Integrity
import Tintbook.Proofs.Store.Rows
import Tintbook.Proofs.Store.Run
import Tintbook.Proofs.Store.Steps
import Tintbook.Proofs.Store.Tables
import Tintbook.Proofs.Time.Calendar
import Tintbook.Proofs.Time.Stamp
import Tintbook.Settings.Address
import Tintbook.Settings.Basic
import Tintbook.Store.Access
import Tintbook.Store.Cell
import Tintbook.Store.Fault
import Tintbook.Store.Record
import Tintbook.Store.Snapshot
import Tintbook.Store.Table
import Tintbook.Store.Workflow
import Tintbook.Submission.Basic
import Tintbook.Submission.Form
import Tintbook.Submission.Json
import Tintbook.Text.Blank
import Tintbook.Text.CaseMap
import Tintbook.Text.Integer
import Tintbook.Text.Literal
import Tintbook.Text.Printable
import Tintbook.Text.Similarity
import Tintbook.Text.Title
import Tintbook.Text.Utf8
import Tintbook.Time.Instant
import Tintbook.Time.Reading
import Tintbook.Toml.Document
import Tintbook.Toml.Syntax
import Tintbook.Toml.Value
import Tintbook.Web.Http
import Tintbook.Web.Page
import Tintbook.Web.Server
import Tintbook.Web.Url
import Tintbook.Proofs.Store.Stamps
import Tintbook.Proofs.Store.Stored
import Tintbook.Proofs.Store.Contents
import Tintbook.Proofs.Store.Effects
import Tintbook.Proofs.Store.Workflows
import Tintbook.Proofs.Store.Change
import Tintbook.Proofs.Store.Failures
import Tintbook.Proofs.Text.TitleCase
import Tintbook.Proofs.Web.Submit
import Tintbook.Proofs.Store.Catalog
import Tintbook.Proofs.Text.Tidy
import Tintbook.Proofs.Text.Integer
import Tintbook.Proofs.Web.EditForm
import Tintbook.Proofs.Cli.CommandLine
import Tintbook.Proofs.Cli.Submit
import Tintbook.Proofs.Json.Equality
import Tintbook.Proofs.Web.FrontEnds
import Tintbook.Proofs.Store.Reads
import Tintbook.Proofs.Store.Removal
import Tintbook.Proofs.Store.Creation
import Tintbook.Proofs.Web.Command
import Tintbook.Proofs.Web.Markup
import Tintbook.Proofs.Text.CaseStability
import Tintbook.Proofs.Text.TitleTwice
import Tintbook.Proofs.Json.Steps
import Tintbook.Proofs.Json.Leaves
import Tintbook.Proofs.Json.ReadBack
import Tintbook.Proofs.Json.ShapeRead
import Tintbook.Proofs.Json.Grammar
import Tintbook.Proofs.Json.Tokens
import Tintbook.Proofs.Json.Skipping
import Tintbook.Proofs.Json.Containers
import Tintbook.Proofs.Json.Records
import Tintbook.Proofs.Json.Numbers
import Tintbook.Proofs.Formula.PayloadDecoding
import Tintbook.Proofs.Formula.PayloadLanguage
import Tintbook.Proofs.Web.Escaping
import Tintbook.Proofs.Web.IdField
import Tintbook.Proofs.Time.StampRange

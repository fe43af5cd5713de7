import SheetExport.Batch
import SheetExport.Binary64
import SheetExport.Binary64.Decimal
import SheetExport.Binary64.Extended
import SheetExport.Binary64.Front
import SheetExport.Binary64.Numeral
import SheetExport.Binary64.Stored
import SheetExport.Bytes
import SheetExport.Calendar
import SheetExport.Call
import SheetExport.Catalog
import SheetExport.Check
import SheetExport.Config
import SheetExport.Csv.Reading
import SheetExport.Csv.Record
import SheetExport.Csv.Writer
import SheetExport.Database
import SheetExport.Database.Opening
import SheetExport.DatabaseUrl
import SheetExport.Download
import SheetExport.Engine
import SheetExport.EntityType
import SheetExport.Environment
import SheetExport.Environment.Line
import SheetExport.Executor
import SheetExport.Fault
import SheetExport.Field
import SheetExport.Filter
import SheetExport.Folder
import SheetExport.Instant
import SheetExport.Job
import SheetExport.Json
import SheetExport.Json.Fault
import SheetExport.Json.Number
import SheetExport.Json.Record
import SheetExport.Json.Skipped
import SheetExport.Json.Text
import SheetExport.Migration
import SheetExport.Plan
import SheetExport.Power
import SheetExport.Proofs.BackingTables
import SheetExport.Proofs.Batches
import SheetExport.Proofs.Blocks
import SheetExport.Proofs.ByteOrder
import SheetExport.Proofs.ColumnNames
import SheetExport.Proofs.Comparisons
import SheetExport.Proofs.Deletions
import SheetExport.Proofs.DownloadedFiles
import SheetExport.Proofs.ExampleValues
import SheetExport.Proofs.Executions
import SheetExport.Proofs.ExportableKeys
import SheetExport.Proofs.ExtendedErrors
import SheetExport.Proofs.Filters
import SheetExport.Proofs.Forgetting
import SheetExport.Proofs.Fragments
import SheetExport.Proofs.Gatherings
import SheetExport.Proofs.Grouping
import SheetExport.Proofs.HeaderLabels
import SheetExport.Proofs.IdTables
import SheetExport.Proofs.Independence
import SheetExport.Proofs.Instants
import SheetExport.Proofs.Interleavings
import SheetExport.Proofs.JobRows
import SheetExport.Proofs.Lexer
import SheetExport.Proofs.Lifecycle
import SheetExport.Proofs.LiteralNumerals
import SheetExport.Proofs.LongestNumerals
import SheetExport.Proofs.Migrations
import SheetExport.Proofs.Names
import SheetExport.Proofs.NearestNumerals
import SheetExport.Proofs.NeededColumns
import SheetExport.Proofs.NewestFirst
import SheetExport.Proofs.NumberEnds
import SheetExport.Proofs.NumberFilters
import SheetExport.Proofs.NumberTokens
import SheetExport.Proofs.Occurrences
import SheetExport.Proofs.OppositeRules
import SheetExport.Proofs.Patterns
import SheetExport.Proofs.Payloads
import SheetExport.Proofs.PlanTexts
import SheetExport.Proofs.PlannedJobs
import SheetExport.Proofs.ProjectedRows
import SheetExport.Proofs.ProvidedFields
import SheetExport.Proofs.ReadRecords
import SheetExport.Proofs.Reads
import SheetExport.Proofs.RecordSpellings
import SheetExport.Proofs.ReferenceTargets
import SheetExport.Proofs.Registered
import SheetExport.Proofs.RememberedKeys
import SheetExport.Proofs.Reports
import SheetExport.Proofs.RequestSpellings
import SheetExport.Proofs.Resolution
import SheetExport.Proofs.Rounding
import SheetExport.Proofs.ScannedKeys
import SheetExport.Proofs.Scopes
import SheetExport.Proofs.SelectedIds
import SheetExport.Proofs.SelectedRows
import SheetExport.Proofs.Shapes
import SheetExport.Proofs.ShortestDecimals
import SheetExport.Proofs.SingleFilters
import SheetExport.Proofs.SiteTables
import SheetExport.Proofs.Stages
import SheetExport.Proofs.Starts
import SheetExport.Proofs.StatementTables
import SheetExport.Proofs.StoredJobs
import SheetExport.Proofs.StoredNumerals
import SheetExport.Proofs.StoredRanges
import SheetExport.Proofs.Streaming
import SheetExport.Proofs.StringSpellings
import SheetExport.Proofs.StuckStatuses
import SheetExport.Proofs.Submissions
import SheetExport.Proofs.Tables
import SheetExport.Proofs.TagPaths
import SheetExport.Proofs.TaglessExports
import SheetExport.Proofs.Tokens
import SheetExport.Proofs.Uuids
import SheetExport.Proofs.ValidRequests
import SheetExport.Proofs.ValueSpellings
import SheetExport.Proofs.ValueTexts
import SheetExport.Proofs.Values
import SheetExport.Proofs.WriterCalls
import SheetExport.Proofs.Written
import SheetExport.Registry
import SheetExport.Report
import SheetExport.Request
import SheetExport.Service
import SheetExport.Sink
import SheetExport.Sql.Condition
import SheetExport.Sql.Depth
import SheetExport.Sql.Query
import SheetExport.Sql.Quote
import SheetExport.Sql.Statement
import SheetExport.Status
import SheetExport.Store
import SheetExport.Store.Connection
import SheetExport.Store.Execution
import SheetExport.Store.Limit
import SheetExport.Store.Moment
import SheetExport.Store.Occasion
import SheetExport.Store.Pattern
import SheetExport.Store.Query
import SheetExport.Store.Resolution
import SheetExport.Store.Scope
import SheetExport.Store.Table
import SheetExport.Store.Truth
import SheetExport.Store.Value
import SheetExport.Text.Alphanumeric
import SheetExport.Text.Blank
import SheetExport.Text.Percent
import SheetExport.Text.Upper
import SheetExport.Text.Visible
import SheetExport.Uuid

import SheetExport.Calendar.Date
import SheetExport.Calendar.DayText
import SheetExport.Calendar.Instant
import SheetExport.Calendar.IsoText
import SheetExport.Calendar.Week
import SheetExport.Cell.Equality
import SheetExport.Cell.Flag
import SheetExport.Cell.Text
import SheetExport.Cell.Whole
import SheetExport.Cli.Arguments
import SheetExport.Cli.Command
import SheetExport.Client.Session
import SheetExport.Client.SpreadsheetId
import SheetExport.Credentials.ServiceAccount
import SheetExport.Credentials.TokenCache
import SheetExport.DataDirectory
import SheetExport.FailingSteps
import SheetExport.FileStore
import SheetExport.Host
import SheetExport.Json.Reader
import SheetExport.Json.Value
import SheetExport.Json.Writer
import SheetExport.Log
import SheetExport.Log.Setup
import SheetExport.Main
import SheetExport.Number.Arithmetic
import SheetExport.Number.Binary64
import SheetExport.Number.Decimal
import SheetExport.Number.Extended
import SheetExport.Number.Integer
import SheetExport.Number.MachineFloat
import SheetExport.Path
import SheetExport.Proofs.CellEquality
import SheetExport.Proofs.ColumnLabels
import SheetExport.Proofs.ExportPass
import SheetExport.Proofs.IdNormalisation
import SheetExport.Proofs.IsoTextRoundTrip
import SheetExport.Proofs.IsoWeekWindows
import SheetExport.Proofs.JsonObjects
import SheetExport.Proofs.JsonTextRecords
import SheetExport.Proofs.OrdinalDates
import SheetExport.Proofs.OutcomeCounts
import SheetExport.Proofs.PlanningClosedForm
import SheetExport.Proofs.RangeAddressing
import SheetExport.Proofs.RepeatedKeys
import SheetExport.Proofs.Replanning
import SheetExport.Proofs.RetrySchedule
import SheetExport.Proofs.RowNumbers
import SheetExport.Proofs.SettingsPrecedence
import SheetExport.Proofs.StorageOrder
import SheetExport.Proofs.SummaryKeys
import SheetExport.Proofs.TextLayout
import SheetExport.Proofs.TokenCacheRoundTrip
import SheetExport.Proofs.TokenPersistence
import SheetExport.Proofs.WeekWindow
import SheetExport.Remote.Failure
import SheetExport.Remote.Service
import SheetExport.Report.Export
import SheetExport.Report.Outcome
import SheetExport.Report.Run
import SheetExport.Settings.Load
import SheetExport.Settings.Values
import SheetExport.Sheet.Column
import SheetExport.Sheet.Error
import SheetExport.Sheet.Plan
import SheetExport.Sheet.Range
import SheetExport.Source.Rows
import SheetExport.Store.Catalog
import SheetExport.Store.Characters
import SheetExport.Store.Error
import SheetExport.Store.FullText.Expression
import SheetExport.Store.FullText.Match
import SheetExport.Store.FullText.Query
import SheetExport.Store.FullText.Report
import SheetExport.Store.FullText.Snippet
import SheetExport.Store.FullText.Stemmer
import SheetExport.Store.FullText.Tokenizer
import SheetExport.Store.Load
import SheetExport.Store.Numeral
import SheetExport.Store.Schema
import SheetExport.Store.Search
import SheetExport.Store.Sql.Access.Estimate
import SheetExport.Store.Sql.Access.Loop
import SheetExport.Store.Sql.Access.Path
import SheetExport.Store.Sql.Access.Plan
import SheetExport.Store.Sql.Access.Probe
import SheetExport.Store.Sql.Access.Shape
import SheetExport.Store.Sql.Access.Term
import SheetExport.Store.Sql.Aggregate
import SheetExport.Store.Sql.Analyze
import SheetExport.Store.Sql.Clock
import SheetExport.Store.Sql.ColumnUse
import SheetExport.Store.Sql.Command
import SheetExport.Store.Sql.Define
import SheetExport.Store.Sql.Eval
import SheetExport.Store.Sql.Format
import SheetExport.Store.Sql.Function
import SheetExport.Store.Sql.JsonDocument
import SheetExport.Store.Sql.JsonFunction
import SheetExport.Store.Sql.JsonTable
import SheetExport.Store.Sql.Mathematics
import SheetExport.Store.Sql.Parse
import SheetExport.Store.Sql.Pattern
import SheetExport.Store.Sql.Query
import SheetExport.Store.Sql.Reference
import SheetExport.Store.Sql.Rename
import SheetExport.Store.Sql.Resolve
import SheetExport.Store.Sql.Run
import SheetExport.Store.Sql.Sorting
import SheetExport.Store.Sql.Statement
import SheetExport.Store.Sql.TableFunction
import SheetExport.Store.Sql.TextSearch
import SheetExport.Store.Sql.Token
import SheetExport.Store.Sql.Tree
import SheetExport.Store.Sql.VirtualModule
import SheetExport.Store.Sql.Windows
import SheetExport.Store.Sql.Write
import SheetExport.Store.Table
import SheetExport.Store.Transaction
import SheetExport.Store.Value
import SheetExport.Store.Virtual
import SheetExport.Store.VirtualChange
import SheetExport.Text.Blank
import SheetExport.Text.CaseFold
import SheetExport.Text.Category
import SheetExport.Text.Digits
import SheetExport.Text.Printable
import SheetExport.Text.Quoted
import SheetExport.Text.Surrogate
import SheetExport.Text.Utf8

import LoanDispatch.Calendar.Basic
import LoanDispatch.Calendar.Epoch
import LoanDispatch.Calendar.Printer
import LoanDispatch.Calendar.Reader
import LoanDispatch.Cell
import LoanDispatch.Channel
import LoanDispatch.ColumnMap.Basic
import LoanDispatch.ColumnMap.Builtin
import LoanDispatch.ColumnMap.Registry
import LoanDispatch.Delivery
import LoanDispatch.Email.Message
import LoanDispatch.Email.Submission
import LoanDispatch.Entries
import LoanDispatch.Fault.ApiReply
import LoanDispatch.Fault.Basic
import LoanDispatch.Fault.Misfit
import LoanDispatch.Fault.Problem
import LoanDispatch.Fault.Report
import LoanDispatch.Fault.Status
import LoanDispatch.FieldPath
import LoanDispatch.Json.Basic
import LoanDispatch.Json.Encoding
import LoanDispatch.Json.Printer
import LoanDispatch.Json.Reader
import LoanDispatch.Ledger.Layout
import LoanDispatch.Ledger.SheetConfig
import LoanDispatch.Ledger.Submission
import LoanDispatch.Log.Binding
import LoanDispatch.Log.Context
import LoanDispatch.Log.Conversion
import LoanDispatch.Log.Line
import LoanDispatch.Log.Note
import LoanDispatch.Log.Setup
import LoanDispatch.Log.Template
import LoanDispatch.Number.Binary
import LoanDispatch.Number.Fixed
import LoanDispatch.Number.Power
import LoanDispatch.Number.Precision
import LoanDispatch.Number.Reading
import LoanDispatch.Number.Rounding
import LoanDispatch.Number.Shortest
import LoanDispatch.Partner.Submission
import LoanDispatch.Payload.Basic
import LoanDispatch.Payload.Reader
import LoanDispatch.Profile.Basic
import LoanDispatch.Profile.Resolution
import LoanDispatch.Route
import LoanDispatch.Script.Basic
import LoanDispatch.Script.Duration
import LoanDispatch.Script.Outcome
import LoanDispatch.Script.Request
import LoanDispatch.Script.Run
import LoanDispatch.Settings.Basic
import LoanDispatch.Settings.Conversion
import LoanDispatch.Settings.EnvFile
import LoanDispatch.Settings.Reader
import LoanDispatch.Spreadsheet.Address
import LoanDispatch.Spreadsheet.Client
import LoanDispatch.Spreadsheet.Credentials
import LoanDispatch.Spreadsheet.Service
import LoanDispatch.Spreadsheet.Workbook
import LoanDispatch.Store.Engine
import LoanDispatch.Store.Memory
import LoanDispatch.Store.Session
import LoanDispatch.Store.Table
import LoanDispatch.Text.Blank
import LoanDispatch.Text.Case
import LoanDispatch.Text.CaseTable
import LoanDispatch.Text.Digit
import LoanDispatch.Text.DigitTable
import LoanDispatch.Text.PrintableTable
import LoanDispatch.Text.Quoted
import LoanDispatch.Text.Range
import LoanDispatch.Text.Split
import LoanDispatch.Url.Basic
import LoanDispatch.Url.Escape
import LoanDispatch.Url.Host
import LoanDispatch.Url.Punycode
import LoanDispatch.Url.Reader
import LoanDispatch.Value.Basic
import LoanDispatch.Value.Dictionary
import LoanDispatch.Value.Display
import LoanDispatch.Value.Integer
import LoanDispatch.Value.Json
import LoanDispatch.Value.OfJson
import LoanDispatch.Value.Printed
import LoanDispatch.Value.Record
import LoanDispatch.Value.Sequence
import LoanDispatch.Proofs.Cell.Structured
import LoanDispatch.Proofs.ColumnMap.Coherence
import LoanDispatch.Proofs.ColumnMap.IdentifierColumn
import LoanDispatch.Proofs.ColumnMap.Registered
import LoanDispatch.Proofs.ColumnMap.Registrations
import LoanDispatch.Proofs.Delivery.Correlation
import LoanDispatch.Proofs.Delivery.Readiness
import LoanDispatch.Proofs.Delivery.Retries
import LoanDispatch.Proofs.Delivery.Taxonomy
import LoanDispatch.Proofs.Email.Acceptance
import LoanDispatch.Proofs.Email.Amount
import LoanDispatch.Proofs.Email.Layout
import LoanDispatch.Proofs.Email.Template
import LoanDispatch.Proofs.Fault.Status
import LoanDispatch.Proofs.FieldPath.Composition
import LoanDispatch.Proofs.FieldPath.Resolution
import LoanDispatch.Proofs.FieldPath.Segments
import LoanDispatch.Proofs.Json.Number
import LoanDispatch.Proofs.Json.Numeral
import LoanDispatch.Proofs.Json.Quoting
import LoanDispatch.Proofs.Json.Reading
import LoanDispatch.Proofs.Json.Scanning
import LoanDispatch.Proofs.Ledger.Alignment
import LoanDispatch.Proofs.Ledger.AppendedRow
import LoanDispatch.Proofs.Ledger.Failure
import LoanDispatch.Proofs.Ledger.Finding
import LoanDispatch.Proofs.Ledger.Grounds
import LoanDispatch.Proofs.Ledger.Identifiers
import LoanDispatch.Proofs.Ledger.Interleaving
import LoanDispatch.Proofs.Ledger.Layout
import LoanDispatch.Proofs.Ledger.Order
import LoanDispatch.Proofs.Ledger.OwnLayout
import LoanDispatch.Proofs.Ledger.Placement
import LoanDispatch.Proofs.Ledger.Raising
import LoanDispatch.Proofs.Ledger.Refinement
import LoanDispatch.Proofs.Ledger.Row
import LoanDispatch.Proofs.Ledger.Sequence
import LoanDispatch.Proofs.Log.Binding
import LoanDispatch.Proofs.Log.Line
import LoanDispatch.Proofs.Number.Amount
import LoanDispatch.Proofs.Number.Integral
import LoanDispatch.Proofs.Number.Nearest
import LoanDispatch.Proofs.Number.Printing
import LoanDispatch.Proofs.Number.Range
import LoanDispatch.Proofs.Number.Reading
import LoanDispatch.Proofs.Outcome.Advice
import LoanDispatch.Proofs.Outcome.Table
import LoanDispatch.Proofs.Calendar.Digits
import LoanDispatch.Proofs.Calendar.Stamp
import LoanDispatch.Proofs.Partner.Exchange
import LoanDispatch.Proofs.Partner.Reports
import LoanDispatch.Proofs.Payload.Mirror
import LoanDispatch.Proofs.Payload.RoundTrip
import LoanDispatch.Proofs.Payload.Typing
import LoanDispatch.Proofs.Profile.NormalForm
import LoanDispatch.Proofs.Profile.Readiness
import LoanDispatch.Proofs.Result.Steps
import LoanDispatch.Proofs.Script.Conduct
import LoanDispatch.Proofs.Script.Ending
import LoanDispatch.Proofs.Script.Nesting
import LoanDispatch.Proofs.Script.Raising
import LoanDispatch.Proofs.Spreadsheet.Address
import LoanDispatch.Proofs.Spreadsheet.Letters
import LoanDispatch.Proofs.Spreadsheet.RowReference
import LoanDispatch.Proofs.Spreadsheet.Workbook
import LoanDispatch.Proofs.Store.Refinement
import LoanDispatch.Proofs.Store.Scope
import LoanDispatch.Proofs.Store.Table
import LoanDispatch.Proofs.Text.Blank
import LoanDispatch.Proofs.Text.Lines
import LoanDispatch.Proofs.Text.Pieces
import LoanDispatch.Proofs.Value.Failing
import LoanDispatch.Proofs.Value.Logged
import LoanDispatch.Proofs.Value.Plain

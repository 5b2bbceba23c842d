import TableQuery.Assignment
import TableQuery.Binary64.Arithmetic
import TableQuery.Binary64.Basic
import TableQuery.Binary64.Reading
import TableQuery.Binary64.Shortest
import TableQuery.Binary64.Written
import TableQuery.Cell.Basic
import TableQuery.Cell.Kind
import TableQuery.Cell.Order
import TableQuery.Clause.Filter
import TableQuery.Clause.Lexer
import TableQuery.Clause.Token
import TableQuery.Clause.Tree
import TableQuery.Command
import TableQuery.Delimited.Options
import TableQuery.Delimited.Reader
import TableQuery.Delimited.Writer
import TableQuery.Function.Builtin
import TableQuery.Function.Call
import TableQuery.Function.Registry
import TableQuery.Journal
import TableQuery.Json.Basic
import TableQuery.Json.Printer
import TableQuery.Json.Reader
import TableQuery.Json.Token
import TableQuery.Main
import TableQuery.Pattern
import TableQuery.Session.Basic
import TableQuery.Session.Folder
import TableQuery.Session.Run
import TableQuery.Session.Screen
import TableQuery.Settings
import TableQuery.Store
import TableQuery.Table.Basic
import TableQuery.Table.Duplicates
import TableQuery.Table.Edit
import TableQuery.Table.Export
import TableQuery.Table.Search
import TableQuery.Table.Sort
import TableQuery.Table.Source
import TableQuery.Table.Tagged
import TableQuery.Table.Totals
import TableQuery.Text.Alphanumeric
import TableQuery.Text.Blank
import TableQuery.Text.CaseRun
import TableQuery.Text.Digits
import TableQuery.Text.Folding
import TableQuery.Text.Lowercase
import TableQuery.Text.Quoted
import TableQuery.Text.Range
import TableQuery.Text.Split
import TableQuery.Text.Uppercase
import TableQuery.Toml.Basic
import TableQuery.Toml.Printer
import TableQuery.Toml.Reader
import TableQuery.Toml.Scalar
import TableQuery.Proofs.AcceptedSettings
import TableQuery.Proofs.AppendedColumn
import TableQuery.Proofs.AssignmentLists
import TableQuery.Proofs.AssignmentText
import TableQuery.Proofs.CallText
import TableQuery.Proofs.ClauseComposition
import TableQuery.Proofs.ClauseGrammar
import TableQuery.Proofs.ClauseLexing
import TableQuery.Proofs.ClauseMeaning
import TableQuery.Proofs.ClauseTiling
import TableQuery.Proofs.ColumnEdits
import TableQuery.Proofs.ColumnKinds
import TableQuery.Proofs.ConditionText
import TableQuery.Proofs.CountedUpdate
import TableQuery.Proofs.DecimalReading
import TableQuery.Proofs.DelimitedRoundTrip
import TableQuery.Proofs.DelimitedScanning
import TableQuery.Proofs.DocumentRoundTrip
import TableQuery.Proofs.DocumentShapes
import TableQuery.Proofs.DuplicateRows
import TableQuery.Proofs.FileRoundTrip
import TableQuery.Proofs.FinishedRows
import TableQuery.Proofs.IgnoredCase
import TableQuery.Proofs.InsertedRows
import TableQuery.Proofs.IntegerOrder
import TableQuery.Proofs.JournalLines
import TableQuery.Proofs.LastShown
import TableQuery.Proofs.LineEnds
import TableQuery.Proofs.LowerCase
import TableQuery.Proofs.MixedQuoting
import TableQuery.Proofs.NewestEntries
import TableQuery.Proofs.OrderKeys
import TableQuery.Proofs.PaddedReading
import TableQuery.Proofs.PatternDecoding
import TableQuery.Proofs.PatternPieces
import TableQuery.Proofs.PatternRegex
import TableQuery.Proofs.Pivot
import TableQuery.Proofs.PrintedTokens
import TableQuery.Proofs.Projection
import TableQuery.Proofs.PseudoFields
import TableQuery.Proofs.QuotedValue
import TableQuery.Proofs.Rectangular
import TableQuery.Proofs.Rounding
import TableQuery.Proofs.RowRemoval
import TableQuery.Proofs.RowTotals
import TableQuery.Proofs.SearchPositions
import TableQuery.Proofs.SessionFrames
import TableQuery.Proofs.SortComposition
import TableQuery.Proofs.SortOrder
import TableQuery.Proofs.StableSort
import TableQuery.Proofs.StoreDurability
import TableQuery.Proofs.StoreSelection
import TableQuery.Proofs.StoreUpdate
import TableQuery.Proofs.TypedRoundTrip
import TableQuery.Proofs.UnquotedText
import TableQuery.Proofs.VisibleDuplicates
import TableQuery.Proofs.WhereSplit
import TableQuery.Proofs.CallText
import TableQuery.Proofs.ColumnKinds

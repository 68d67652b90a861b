import SheetQuery.Arguments
import SheetQuery.Command
import SheetQuery.Console
import SheetQuery.Delimited.Reader
import SheetQuery.Delimited.Writer
import SheetQuery.Disk
import SheetQuery.Encoding.Basic
import SheetQuery.Encoding.ChineseTables
import SheetQuery.Encoding.Decode
import SheetQuery.Encoding.Tabled
import SheetQuery.Encoding.Tables
import SheetQuery.Engine
import SheetQuery.Failure
import SheetQuery.Identifier
import SheetQuery.Journal
import SheetQuery.Layout
import SheetQuery.Main
import SheetQuery.Mapping.Ambiguity
import SheetQuery.Mapping.Context
import SheetQuery.Mapping.Store
import SheetQuery.Mapping.Substitution
import SheetQuery.Number.Binary64
import SheetQuery.Number.Count
import SheetQuery.Number.Numeral
import SheetQuery.Path
import SheetQuery.Plan
import SheetQuery.Program
import SheetQuery.Proofs.Columns
import SheetQuery.Proofs.Command
import SheetQuery.Proofs.Console
import SheetQuery.Proofs.Delimited.Characters
import SheetQuery.Proofs.Delimited.RoundTrip
import SheetQuery.Proofs.Disk
import SheetQuery.Proofs.Duplicates
import SheetQuery.Proofs.Engine.Counting
import SheetQuery.Proofs.Engine.Mappings
import SheetQuery.Proofs.Engine.Semantics
import SheetQuery.Proofs.Engine.Tables
import SheetQuery.Proofs.Layout
import SheetQuery.Proofs.Mapping.Ambiguities
import SheetQuery.Proofs.Mapping.Candidates
import SheetQuery.Proofs.Mapping.Context
import SheetQuery.Proofs.Mapping.Entries
import SheetQuery.Proofs.Mapping.History
import SheetQuery.Proofs.Mapping.Repeating
import SheetQuery.Proofs.Mapping.Rewriting
import SheetQuery.Proofs.Mapping.Selection
import SheetQuery.Proofs.Mapping.Tokens
import SheetQuery.Proofs.Mapping.Unnested
import SheetQuery.Proofs.Mapping.Unrelated
import SheetQuery.Proofs.Mapping.Words
import SheetQuery.Proofs.Outcome
import SheetQuery.Proofs.Plan
import SheetQuery.Proofs.Session.Affected
import SheetQuery.Proofs.Session.Agreement
import SheetQuery.Proofs.Session.Atomicity
import SheetQuery.Proofs.Session.Description
import SheetQuery.Proofs.Session.Distinct
import SheetQuery.Proofs.Session.Filling
import SheetQuery.Proofs.Session.Footprint
import SheetQuery.Proofs.Session.GridLoads
import SheetQuery.Proofs.Session.Headers
import SheetQuery.Proofs.Session.LastResult
import SheetQuery.Proofs.Session.Loaded
import SheetQuery.Proofs.Session.Loads
import SheetQuery.Proofs.Session.Opening
import SheetQuery.Proofs.Session.Order
import SheetQuery.Proofs.Session.Query
import SheetQuery.Proofs.Session.Replacing
import SheetQuery.Proofs.Session.Runs
import SheetQuery.Proofs.Session.TableList
import SheetQuery.Proofs.Session.Warnings
import SheetQuery.Proofs.Sql.Assembly
import SheetQuery.Proofs.Sql.Compiled
import SheetQuery.Proofs.Sql.Content
import SheetQuery.Proofs.Sql.Counting
import SheetQuery.Proofs.Sql.Frame
import SheetQuery.Proofs.Sql.InMemory
import SheetQuery.Proofs.Sql.Invariants
import SheetQuery.Proofs.Sql.Laws.Locality
import SheetQuery.Proofs.Sql.Laws.Mappings
import SheetQuery.Proofs.Sql.Laws.Queries
import SheetQuery.Proofs.Sql.Laws.Reachable
import SheetQuery.Proofs.Sql.Laws.Tables
import SheetQuery.Proofs.Sql.Laws.Transactions
import SheetQuery.Proofs.Sql.Locality
import SheetQuery.Proofs.Sql.MappingTable
import SheetQuery.Proofs.Sql.Naming
import SheetQuery.Proofs.Sql.Numbering
import SheetQuery.Proofs.Sql.Perform
import SheetQuery.Proofs.Sql.Planned
import SheetQuery.Proofs.Sql.Reading
import SheetQuery.Proofs.Sql.ReadingFaults
import SheetQuery.Proofs.Sql.Rows
import SheetQuery.Proofs.Sql.Selection
import SheetQuery.Proofs.Sql.Semantics
import SheetQuery.Proofs.Sql.Spelling
import SheetQuery.Proofs.Sql.Statements
import SheetQuery.Proofs.Sql.Texts
import SheetQuery.Proofs.Text.Joining
import SheetQuery.Proofs.Text.Overlap
import SheetQuery.Proofs.Text.Replacement
import SheetQuery.Proofs.Text.Runs
import SheetQuery.Proofs.Text.Sorted
import SheetQuery.Proofs.Text.Utf8
import SheetQuery.Readers
import SheetQuery.Session.Basic
import SheetQuery.Session.Load
import SheetQuery.Session.LoadError
import SheetQuery.Session.Query
import SheetQuery.Settings
import SheetQuery.Source
import SheetQuery.Sql.Action
import SheetQuery.Sql.Catalog
import SheetQuery.Sql.Change
import SheetQuery.Sql.Connection
import SheetQuery.Sql.Database
import SheetQuery.Sql.Fault
import SheetQuery.Sql.Grammar
import SheetQuery.Sql.Lexeme
import SheetQuery.Sql.Pages
import SheetQuery.Sql.Query
import SheetQuery.Sql.Script
import SheetQuery.Sql.Statement
import SheetQuery.Sql.Term
import SheetQuery.Sql.Value
import SheetQuery.Store
import SheetQuery.Text.Basic
import SheetQuery.Text.Blank
import SheetQuery.Text.Dictionary
import SheetQuery.Text.Han
import SheetQuery.Text.Printable
import SheetQuery.Text.Quoted
import SheetQuery.Text.Utf8
import SheetQuery.Text.Width
import SheetQuery.Text.WidthTable
import SheetQuery.Workbook

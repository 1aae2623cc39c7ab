import TypedSql.Backend
import TypedSql.Calendar.Clock
import TypedSql.Calendar.Date
import TypedSql.Calendar.Reading
import TypedSql.Calendar.Timestamp
import TypedSql.Column
import TypedSql.Condition
import TypedSql.Condition.Reading
import TypedSql.Config
import TypedSql.Config.Absence
import TypedSql.Config.Expansion
import TypedSql.Config.Reading
import TypedSql.Connection.Address
import TypedSql.Connection.Reading
import TypedSql.Connection.Setting
import TypedSql.DataMap
import TypedSql.Error
import TypedSql.Fleet
import TypedSql.Json
import TypedSql.Json.Lexeme
import TypedSql.Json.Reading
import TypedSql.Json.Shape
import TypedSql.Log
import TypedSql.Materialize
import TypedSql.Number.Binary
import TypedSql.Number.Decimal
import TypedSql.Number.Decimal.OfDouble
import TypedSql.Number.Decimal.Reading
import TypedSql.Number.Numeral
import TypedSql.Number.Power
import TypedSql.Number.Shortest
import TypedSql.Number.Signed
import TypedSql.Outcome
import TypedSql.Pairs
import TypedSql.Parameter
import TypedSql.Placeholder
import TypedSql.Pool
import TypedSql.Record
import TypedSql.Registry
import TypedSql.Server
import TypedSql.Server.Report
import TypedSql.Server.Script
import TypedSql.Session
import TypedSql.SqlType
import TypedSql.Statement
import TypedSql.Statement.Reading
import TypedSql.Text.Alphanumeric
import TypedSql.Text.Blank
import TypedSql.Text.CamelCase
import TypedSql.Text.Case
import TypedSql.Text.CaseTable
import TypedSql.Text.Escaped
import TypedSql.Text.Percent
import TypedSql.Text.Quoted
import TypedSql.Text.Ranges
import TypedSql.Text.Split
import TypedSql.Text.Utf8
import TypedSql.Toml
import TypedSql.Toml.Lexeme
import TypedSql.Toml.Reading
import TypedSql.Toml.Scalar
import TypedSql.Value
import TypedSql.Wire.Bytes
import TypedSql.Wire.Decoding
import TypedSql.Wire.Encoding
import TypedSql.Wire.Numeric
import TypedSql.Wire.Uuid
import TypedSql.Proofs.Statement.Numbering
import TypedSql.Proofs.Statement.WhereGrammar
import TypedSql.Proofs.Placeholder.Lexical
import TypedSql.Proofs.Placeholder.Segmentation
import TypedSql.Proofs.Placeholder.Agreement
import TypedSql.Proofs.Placeholder.Restoring
import TypedSql.Proofs.Condition.Validation
import TypedSql.Proofs.Pairs
import TypedSql.Proofs.Record.Merge
import TypedSql.Proofs.Materialize
import TypedSql.Proofs.Text.Blank
import TypedSql.Proofs.Text.Utf8
import TypedSql.Proofs.Wire.Integer
import TypedSql.Proofs.Wire.Uuid
import TypedSql.Proofs.Calendar.Date
import TypedSql.Proofs.Calendar.Timestamp
import TypedSql.Proofs.Calendar.Text
import TypedSql.Proofs.Wire.Temporal
import TypedSql.Proofs.Wire.Cell
import TypedSql.Proofs.Wire.Encoding
import TypedSql.Proofs.Number.Binary
import TypedSql.Proofs.Number.Decimal
import TypedSql.Proofs.Number.Numeral
import TypedSql.Proofs.Number.Rounding
import TypedSql.Proofs.Number.Scientific
import TypedSql.Proofs.Wire.Numeric
import TypedSql.Proofs.Wire.WriteBack
import TypedSql.Proofs.Wire.ReadBack
import TypedSql.Proofs.Statement.Execution
import TypedSql.Proofs.Traversal
import TypedSql.Proofs.Parameter.Binding
import TypedSql.Proofs.Parameter.Temporal
import TypedSql.Proofs.Parameter.Integer
import TypedSql.Proofs.Parameter.Float
import TypedSql.Proofs.Session.Execution
import TypedSql.Proofs.DataMap.History
import TypedSql.Proofs.Statement.Description
import TypedSql.Proofs.Statement.Deletion
import TypedSql.Proofs.Registry.Lifecycle
import TypedSql.Proofs.Record.Coercion
import TypedSql.Proofs.Record.Views
import TypedSql.Proofs.Wire.Decimal
import TypedSql.Proofs.Wire.Size
import TypedSql.Proofs.Calendar.Succession
import TypedSql.Proofs.Parameter.Epoch
import TypedSql.Proofs.Statement.Grammar
import TypedSql.Proofs.Statement.Filters
import TypedSql.Proofs.Parameter.Positions
import TypedSql.Proofs.Record.Prefix
import TypedSql.Proofs.Record.Rereading
import TypedSql.Proofs.Text.CamelCase
import TypedSql.Proofs.Statement.Independence
import TypedSql.Proofs.Toml.Names
import TypedSql.Proofs.Config.Expansion
import TypedSql.Proofs.Config.Loading
import TypedSql.Proofs.Text.Slice
import TypedSql.Proofs.Placeholder.Offsets
import TypedSql.Proofs.Log.Truncation

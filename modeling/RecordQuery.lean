import RecordQuery.Binary64.Basic
import RecordQuery.Binary64.Text
import RecordQuery.Command.Invocation
import RecordQuery.Command.Manual
import RecordQuery.Config
import RecordQuery.Duration
import RecordQuery.Json.Basic
import RecordQuery.Json.Reading
import RecordQuery.Main
import RecordQuery.Operator
import RecordQuery.Proofs.Binary64.Nearest
import RecordQuery.Proofs.Binary64.ReadBack
import RecordQuery.Proofs.Binary64.Whole
import RecordQuery.Proofs.Config.Fields
import RecordQuery.Proofs.Config.Hidden
import RecordQuery.Proofs.Config.ReadBack
import RecordQuery.Proofs.Duration.Layout
import RecordQuery.Proofs.Duration.Meaning
import RecordQuery.Proofs.Duration.ReadBack
import RecordQuery.Proofs.Duration.Words
import RecordQuery.Proofs.Json.Numbers
import RecordQuery.Proofs.Json.ReadBack
import RecordQuery.Proofs.Json.TextReadBack
import RecordQuery.Proofs.Query.Composition
import RecordQuery.Proofs.Query.Faults
import RecordQuery.Proofs.Query.Grammar
import RecordQuery.Proofs.Query.Inversion
import RecordQuery.Proofs.Query.Naming
import RecordQuery.Proofs.Query.ReadBack
import RecordQuery.Proofs.Query.Recognition
import RecordQuery.Proofs.Query.RecordText
import RecordQuery.Proofs.Query.Respelling
import RecordQuery.Proofs.Query.Sorting
import RecordQuery.Proofs.Query.Soundness
import RecordQuery.Proofs.Query.Typing
import RecordQuery.Proofs.Reading
import RecordQuery.Proofs.Schema.Building
import RecordQuery.Proofs.Schema.Checking
import RecordQuery.Proofs.Sql.Agreement
import RecordQuery.Proofs.Sql.FieldAgreement
import RecordQuery.Proofs.Sql.Literals
import RecordQuery.Proofs.Sql.Meaning
import RecordQuery.Proofs.Sql.NullLiterals
import RecordQuery.Proofs.Sql.Order
import RecordQuery.Proofs.Sql.Text
import RecordQuery.Proofs.Text.Ascii
import RecordQuery.Proofs.Text.Lower
import RecordQuery.Proofs.Token.Concatenation
import RecordQuery.Proofs.Token.Progress
import RecordQuery.Proofs.Token.Scan
import RecordQuery.Proofs.Token.Stream
import RecordQuery.Proofs.Value.EnumNames
import RecordQuery.Proofs.Value.Matching
import RecordQuery.Proofs.Value.ReadBack
import RecordQuery.Proofs.Value.SortKey
import RecordQuery.Query.Basic
import RecordQuery.Query.Inspection
import RecordQuery.Query.Reading
import RecordQuery.Schema
import RecordQuery.Sql.Basic
import RecordQuery.Sql.QuerySelection
import RecordQuery.Text.Class
import RecordQuery.Text.Lower
import RecordQuery.Text.Shown
import RecordQuery.Token
import RecordQuery.Value

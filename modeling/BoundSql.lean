import BoundSql.Command
import BoundSql.Compile
import BoundSql.Json.Writer
import BoundSql.Statement.Builder
import BoundSql.Statement.Reader
import BoundSql.Main
import BoundSql.Proofs.Marked
import BoundSql.Proofs.Run
import BoundSql.Proofs.Scan
import BoundSql.Proofs.Equations
import BoundSql.Proofs.Reading
import BoundSql.Proofs.Binding
import BoundSql.Proofs.Embedding
import BoundSql.Proofs.Coverage
import BoundSql.Proofs.Blank
import BoundSql.Proofs.Filtered
import BoundSql.Proofs.Grammar
import BoundSql.Proofs.Meaning
import BoundSql.Proofs.Lexing
import BoundSql.Proofs.Tree
import BoundSql.Proofs.Record
import BoundSql.Proofs.Embedded
import BoundSql.Proofs.Roundtrip
import BoundSql.Proofs.Occurrences
import BoundSql.Proofs.Session
import BoundSql.Proofs.Reach
import BoundSql.Proofs.RowLimits
import BoundSql.Proofs.Agreement
import BoundSql.Proofs.Splicing
import BoundSql.Proofs.NullCheck
import BoundSql.Proofs.Skipped
import BoundSql.Proofs.Drafts
import BoundSql.Proofs.Columns
import BoundSql.Proofs.Nulls
import BoundSql.Proofs.RowMajor
import BoundSql.Proofs.Rendered
import BoundSql.Proofs.Layering
import BoundSql.Proofs.Places

import TaggedSql.Connect
import TaggedSql.Session.Script
import TaggedSql.Proofs.Placeholder.Pattern
import TaggedSql.Proofs.Placeholder.Faithful
import TaggedSql.Proofs.Placeholder.Format
import TaggedSql.Proofs.Placeholder.Junction
import TaggedSql.Proofs.Query.Agreement
import TaggedSql.Proofs.Query.RawConditions
import TaggedSql.Proofs.Query.Supported
import TaggedSql.Proofs.Query.Refusals
import TaggedSql.Proofs.Query.Shape
import TaggedSql.Proofs.Query.Rebinding
import TaggedSql.Proofs.Operation
import TaggedSql.Proofs.Statement.Execution
import TaggedSql.Proofs.Session.Continuation
import TaggedSql.Proofs.Session.Transaction
import TaggedSql.Proofs.Session.TransactionFlag
import TaggedSql.Proofs.Statement.Slots
import TaggedSql.Proofs.Statement.Sending
import TaggedSql.Proofs.Session.Effects
import TaggedSql.Proofs.Session.Independence
import TaggedSql.Proofs.Session.Adapters
import TaggedSql.Proofs.Placeholder.Enclosure
import TaggedSql.Proofs.Placeholder.Relexing
import TaggedSql.Proofs.Placeholder.QuestionMarks
import TaggedSql.Proofs.Placeholder.Recompilation
import TaggedSql.Proofs.Calendar.Spelling
import TaggedSql.Proofs.Sql.Timestamps
import TaggedSql.Proofs.Session.Streams
import TaggedSql.Proofs.Session.Repetition
import TaggedSql.Proofs.Query.Noninterference
import TaggedSql.Proofs.Query.Freezing
import TaggedSql.Proofs.Session.Freezing
import TaggedSql.Proofs.Query.Rendering
import TaggedSql.Proofs.Session.Coupling
import TaggedSql.Proofs.Query.RefusedRows
import TaggedSql.Proofs.Value.CoercionKinds
import TaggedSql.Proofs.Session.Resources
import TaggedSql.Proofs.Sql.Paging
import TaggedSql.Proofs.Query.Portability
import TaggedSql.Proofs.Placeholder.Strictness
import TaggedSql.Proofs.Placeholder.Concatenation
import TaggedSql.Proofs.Sql.Unquoting
import TaggedSql.Proofs.Sql.Chronology
import TaggedSql.Proofs.Placeholder.Options
import TaggedSql.Proofs.Value.RoundTrips
import TaggedSql.Proofs.Value.Idempotence
import TaggedSql.Proofs.Query.Predicates
import TaggedSql.Proofs.Placeholder.OnePass
import TaggedSql.Proofs.Query.OwnNames

